import P4Outline.Command.Platform
import P4Outline.Console.Markup
import P4Outline.Console.Screen
import P4Outline.Yaml.Document

/-!
# What a run is given on the command line

Documents are read by the reader of `Yaml`, and a wide terminal shows what `Markup` and `Screen`
make of a text. Texts have no attributes there.
-/

namespace P4Outline

/-- A terminal that breaks no lines. -/
def Console.terminal : Console where
  escape := Markup.escaped
  markup :=
    fun markup => ((Markup.plain markup).map Screen.printed).mapError Markup.MarkupError.message
  plain := Screen.printed
  record := fun r => Screen.printed (r.render 0)

/-- The name at the front of a way that begins with an attribute. -/
def Template.firstAttribute (way : List Char) : List Char :=
  (way.drop 1).takeWhile fun c => c ≠ '.' && c ≠ '['

/-- Texts without attributes, which are filled up as far as can be asked for. -/
def Template.Host.bare : Template.Host where
  reach := fun _ way =>
    let name := Template.firstAttribute way
    .error (if name.isEmpty then .unusable else .noAttribute (String.ofList name))
  room := Template.maxSize

/-- What a run is given on the command line. -/
def Platform.standard : Platform := ⟨Yaml.readFile, .terminal, .bare⟩

end P4Outline
