import Coursebook.Web.Service
import Coursebook.Cli.Command
import Coursebook.Conversion.Convert
import Coursebook.Course.Document
import Coursebook.Files.Change
import Coursebook.Conversion.Failure
import Coursebook.Conversion.Notice
import Coursebook.Conversion.Config
import Coursebook.Files.Disk
import Coursebook.Archive.Name
import Coursebook.Text.AsciiFold
import Coursebook.Text.LowerCase
import Coursebook.Text.Quoted
import Coursebook.Media.Link
import Coursebook.Files.Path
import Coursebook.Xml.Element
import Coursebook.Xml.Fault
import Coursebook.Xml.NameChar
import Coursebook.Xml.Document
import Coursebook.Course.Component
import Coursebook.Main
import Coursebook.Proofs.Archive.Confinement
import Coursebook.Proofs.Text.Split
import Coursebook.Proofs.Files.Name
import Coursebook.Proofs.Files.Making
import Coursebook.Proofs.Archive.Bundle
import Coursebook.Proofs.Archive.Packing
import Coursebook.Proofs.Files.Below
import Coursebook.Proofs.Course.Document
import Coursebook.Proofs.Course.Locality
import Coursebook.Proofs.Course.Parts
import Coursebook.Proofs.Course.Confined
import Coursebook.Proofs.Course.Leaf
import Coursebook.Proofs.Course.Registry
import Coursebook.Proofs.Course.Tally
import Coursebook.Proofs.Text.Percent
import Coursebook.Proofs.Media.Link
import Coursebook.Proofs.Files.Edits
import Coursebook.Proofs.Files.Listing
import Coursebook.Proofs.Media.FileName
import Coursebook.Proofs.Media.Copies
import Coursebook.Proofs.Media.Assets
import Coursebook.Proofs.Files.Apart
import Coursebook.Proofs.Archive.Edits
import Coursebook.Proofs.Conversion.Changes
import Coursebook.Proofs.Conversion.Frame
import Coursebook.Proofs.Conversion.Alike
import Coursebook.Proofs.Conversion.Batch
import Coursebook.Proofs.Conversion.Reach
import Coursebook.Proofs.Conversion.Single
import Coursebook.Proofs.Conversion.Completion
import Coursebook.Proofs.Quiz.Lines
import Coursebook.Proofs.Text.Words
import Coursebook.Proofs.Quiz.Choices
import Coursebook.Proofs.Quiz.Prompt
import Coursebook.Proofs.Quiz.Entries
import Coursebook.Proofs.Quiz.AnswerKey
import Coursebook.Proofs.Quiz.Feedback
import Coursebook.Proofs.Quiz.Secrecy
import Coursebook.Proofs.Course.Damage
import Coursebook.Proofs.Course.Structure
import Coursebook.Proofs.Course.Assembly
import Coursebook.Proofs.Course.Reached
import Coursebook.Proofs.Conversion.Account
import Coursebook.Proofs.Files.Unique
import Coursebook.Proofs.Conversion.Standing
import Coursebook.Proofs.Web.UploadName
import Coursebook.Proofs.Web.Serving
import Coursebook.Proofs.Web.Downloads
import Coursebook.Proofs.Web.Uploads
import Coursebook.Proofs.Conversion.Output
import Coursebook.Proofs.Web.Footprint
import Coursebook.Proofs.Web.Contents
import Coursebook.Proofs.Web.Fetching
import Coursebook.Proofs.Web.History
import Coursebook.Conversion.Printing
import Coursebook.Proofs.Conversion.Printing
import Coursebook.Proofs.Cli.Agreement
import Coursebook.Proofs.Archive.Skipped
import Coursebook.Proofs.Conversion.Stages
import Coursebook.Proofs.Files.Elsewhere
import Coursebook.Proofs.Course.Relocation
import Coursebook.Proofs.Course.Places
import Coursebook.Proofs.Media.References
import Coursebook.Proofs.Media.Attributes
import Coursebook.Proofs.Archive.TopLevel
import Coursebook.Proofs.Archive.Finding
import Coursebook.Proofs.Files.Null
import Coursebook.Proofs.Archive.Faults
import Coursebook.Proofs.Text.Runs
import Coursebook.Proofs.Media.Tokens
import Coursebook.Proofs.Text.LowerCase
import Coursebook.Proofs.Course.Collection
import Coursebook.Proofs.Course.Registering
import Coursebook.Proofs.Xml.Pruning
import Coursebook.Proofs.Quiz.ListedOptions
import Coursebook.Proofs.Xml.Likeness
import Coursebook.Proofs.Quiz.Likeness
import Coursebook.Proofs.Quiz.Numbers
import Coursebook.Proofs.Markdown.BlankLines
import Coursebook.Proofs.Text.Lines
import Coursebook.Proofs.Markdown.Gaps
import Coursebook.Proofs.Markdown.Tidying
import Coursebook.Proofs.Html.Preformatted
import Coursebook.Proofs.Course.Preformatted
