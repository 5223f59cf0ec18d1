/-!
# Coursebook — settings

What a conversion can be told to do differently.
-/

namespace Coursebook

/-- The settings of a conversion. -/
structure Config where
  /-- Whether to tell about progress. -/
  verbose : Bool := false
  /-- The author named in the document. -/
  author : String := "Course Converter"
  /-- The address named in the document. -/
  email : String := "converter@example.com"
  /-- The file name of the document. -/
  markdownFile : String := "course.md"
  /-- The name of the directory for media files. -/
  mediaDir : String := "media"
  deriving DecidableEq, Repr

end Coursebook
