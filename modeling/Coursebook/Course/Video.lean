import Coursebook.Text.Blank
import Coursebook.Text.CodeSet
import Coursebook.Xml.Element

/-!
# Coursebook — videos

Where a video comes from, and the link that shows it.
-/

namespace Coursebook.Course

open Coursebook.Xml

/-- Where a video comes from. -/
inductive VideoKind where
  | youtube
  | external
  | unknown
  deriving DecidableEq, Repr

/-- The name of a kind. -/
def VideoKind.name : VideoKind → String
  | .youtube => "youtube"
  | .external => "external"
  | .unknown => "unknown"

/-- The kind of a video. -/
def VideoKind.ofElement (video : Element) : VideoKind :=
  if (video.filled? "youtube").isSome then .youtube
  else if (video.filled? "url_name").isSome then .external
  else .unknown

/-- The id of a video in an attribute that lists speeds and ids such as `1.00:dQw4w9WgXcQ`; only the
first entry counts. -/
def youtubeId (attr : List Char) : Option (List Char) :=
  match Text.splitAll ':' (Text.trim (Text.cut ',' attr).1) with
  | _ :: id :: _ => if Text.trim id = [] then none else some (Text.trim id)
  | _ => none

/-- The page that plays a video. -/
def watchUrl (id : List Char) : String := "https://www.youtube.com/watch?v=" ++ .ofList id

/-- A video that is shown in place. -/
def embeddedVideo (displayName url : String) : String :=
  "\n".intercalate
    [s!"**{displayName}**\n", "Watch the video below:\n", s!"\n!?[{displayName}]({url})\n"]

/-- The written form of a video. -/
def videoText (kind : VideoKind) (video : Element) (displayName : String) : String :=
  match kind with
  | .youtube =>
    match youtubeId ((video.attribute? "youtube").getD "").toList with
    | some id => embeddedVideo displayName (watchUrl id)
    | none => s!"**{displayName}**\n\n*Video ID could not be extracted*\n"
  | .external => embeddedVideo displayName ((video.attribute? "url_name").getD "")
  | .unknown =>
    s!"**{displayName}**\n\n" ++
      "*Only YouTube and external URL videos are supported; this video type is not supported.*\n"

end Coursebook.Course
