import Coursebook.Text.CodeSet
import Coursebook.Text.Percent

/-!
# Coursebook — routes

What the target of a request stands for. Slashes before the path count as one. A target that leads
somewhere only once its doubled slashes are single is answered with the way there.
-/

namespace Coursebook.Web

open Coursebook.Text

/-- What a request wants to do. -/
inductive Method where
  | get
  | post
  deriving DecidableEq, Repr

/-- What a path leads to. -/
inductive Route where
  /-- The page to start from. -/
  | start
  | health
  /-- Where courses are sent to. -/
  | convert
  | download (name : String)
  /-- A file that belongs to the start page; there are none. -/
  | asset
  deriving DecidableEq, Repr

namespace Route

/-- The method that a route takes. -/
def method : Route → Method
  | convert => .post
  | _ => .get

/-- What the names of a path lead to. -/
def ofNames? : List (List Char) → Option Route
  | [[]] => some start
  | [name] =>
    if name = "health".toList then some health
    else if name = "convert".toList then some convert
    else none
  | top :: name :: r =>
    if top = "static".toList ∧ name ≠ [] then some asset
    else if top = "download".toList ∧ name ≠ [] ∧ r = [] then some (download (.ofList name))
    else none
  | [] => none

/-- What a path leads to. -/
def ofPath? (path : List Char) : Option Route := ofNames? (splitAll '/' path)

end Route

/-- A path with every pair of slashes made one. -/
def singleSlashes : List Char → List Char
  | '/' :: '/' :: r => '/' :: singleSlashes r
  | c :: r => c :: singleSlashes r
  | [] => []

/-- The path of a target without its host, its query and its fragment. -/
def rawPath (target : List Char) : List Char :=
  let hostless := match target with
    | '/' :: '/' :: r => r.dropWhile fun c => c != '/' && c != '?' && c != '#'
    | _ => target
  hostless.takeWhile fun c => c != '?' && c != '#'

/-- The path of a target, escapes decoded, from its first name on. -/
def targetPath (target : String) : List Char :=
  (percentDecode (rawPath target.toList)).dropWhile (· = '/')

/-- Where a request leads. -/
inductive Lead where
  | to (route : Route)
  /-- To a route with another spelling of its path. -/
  | moved
  | nowhere
  /-- To a route that does not take the method. -/
  | notAllowed
  deriving DecidableEq, Repr

/-- Where a request leads, by its method and target. -/
def lead (method : Method) (target : String) : Lead :=
  let path := targetPath target
  match Route.ofPath? path with
  | some route => if route.method = method then .to route else .notAllowed
  | none =>
    match Route.ofPath? (singleSlashes path) with
    | some route => if route.method = method then .moved else .notAllowed
    | none => .nowhere

end Coursebook.Web
