import P4Outline.Assistant.Template
import P4Outline.Config.Document
import P4Outline.Console.Basic

/-!
# What a run is given

The parts of a run that are made elsewhere: the reader of documents, the console, and what templates
meet.
-/

namespace P4Outline

/-- What a run is given beside its surroundings. -/
structure Platform where
  documents : DocumentReader
  console : Console
  host : Template.Host

end P4Outline
