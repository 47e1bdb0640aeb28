import P4Outline.Text.Digit
import P4Outline.Text.Split

/-!
# The options of a run

The command line names one source and any number of options. Options have long names, which may be
cut short as long as no other option starts the same, and some have a letter. Letters may share one
word (`-vD`), and an equals sign may stand behind the first one (`-v=D`). The value of a long option
is the next word or stands behind an equals sign (`--action=drop`). Two dashes behind an equals sign
are no value: they take back what was said before.

A word is no option, and so may be a value or the source, if it is empty, does not start with a
dash, is one dash or a negative number, or has a blank in it and starts no option. Behind the word
`--` no word is an option.
-/

namespace P4Outline

open P4Outline.Text

/-! ### Options and words -/

/-- An option. -/
inductive Flag where
  /-- Show how the program is used, and do nothing else. -/
  | help
  /-- Name the language of the source. -/
  | language
  /-- Name the file of the settings. -/
  | configFile
  /-- Print a record. -/
  | json
  /-- Write a page. -/
  | html
  /-- Print the body of an action. -/
  | action
  /-- Print where a declaration starts. -/
  | locate
  /-- Have an error explained. -/
  | explain
  /-- Name the language model. -/
  | llmModel
  /-- Log more. -/
  | verbose
  /-- Log all there is. -/
  | debug
  deriving DecidableEq, Repr, Inhabited

namespace Flag

/-- All options. -/
def all : List Flag :=
  [help, language, configFile, json, html, action, locate, explain, llmModel, verbose, debug]

/-- The long name of an option. -/
def name : Flag → String
  | help => "--help"
  | language => "--language"
  | configFile => "--config-file"
  | json => "--json"
  | html => "--html"
  | action => "--action"
  | locate => "--locate"
  | explain => "--explain"
  | llmModel => "--llm-model"
  | verbose => "--verbose"
  | debug => "--debug"

/-- The option of a letter. -/
def ofLetter? (c : Char) : Option Flag :=
  if c = 'h' then some help else if c = 'v' then some verbose else if c =
    'D' then some debug else none

/-- Whether an option stands alone, without any value. -/
def isBare : Flag → Bool
  | help | json | verbose | debug => true
  | _ => false

/-- The option that a name means: the one that has it, else the only one that starts with it. -/
def ofName (name : List Char) : List Flag :=
  match all.filter fun f => f.name.toList = name with
  | [] => all.filter fun f => name.isPrefixOf f.name.toList
  | found => found

end Flag

/-- A word of the command line. -/
inductive Word where
  /-- No option. -/
  | plain (text : String)
  /-- The word behind which no word is an option. -/
  | separator
  /-- A long option, and the value behind its equals sign. -/
  | long (flag : Flag) (value : Option String)
  /-- Options by their letters. -/
  | letters (flags : List Flag)
  /-- The letter of an option, and behind it something that is not made of such letters. -/
  | badLetters
  /-- An option that there is not. -/
  | unknown
  deriving DecidableEq, Repr, Inhabited

namespace Word

/-- Whether a text is a negative number: a dash and digits, which may have a point before or among
them. A line break may follow. -/
def isNegative (cs : List Char) : Bool :=
  match cs with
  | '-' :: cs =>
    let cs := if cs.getLast? = some '\n' then cs.dropLast else cs
    match pieces '.' cs with
    | [whole] => !whole.isEmpty && whole.all isDigit
    | [whole, part] => whole.all isDigit && !part.isEmpty && part.all isDigit
    | _ => false
  | _ => false

/-- The options of letters, if each letter has one. -/
def flagsOf? : List Char → Option (List Flag)
  | [] => some []
  | c :: cs =>
    match Flag.ofLetter? c, flagsOf? cs with
    | some f, some fs => some (f :: fs)
    | _, _ => none

/-- The word of an option's letter and what stands behind it: more letters, or an equals sign and at
least one letter. -/
def ofLetters (first : Flag) (behind : List Char) : Word :=
  let more :=
    match behind with
    | ['='] => none
    | '=' :: cs => flagsOf? cs
    | cs => flagsOf? cs
  match more with
  | some flags => letters (first :: flags)
  | none => badLetters

/-- A word that starts with a dash and is no option that there is. -/
def ofOther (text : String) : Word :=
  if isNegative text.toList || text.toList.contains ' ' then plain text else unknown

/-- A word that starts with two dashes. There is none if it could mean several options. -/
def ofLong? (text : String) : Option Word :=
  let (name, value) :=
    match cut? ['='] text.toList with
    | some (name, value) => (name, some (String.ofList value))
    | none => (text.toList, none)
  match Flag.ofName name with
  | [] => some (ofOther text)
  | [f] => some (long f value)
  | _ => none

/-- The word that a text is, in front of the separator. There is none if it could mean several
options. -/
def ofText? (text : String) : Option Word :=
  match text.toList with
  | '-' :: '-' :: _ => ofLong? text
  | '-' :: c :: cs =>
    match Flag.ofLetter? c with
    | some f => some (ofLetters f cs)
    | none => some (ofOther text)
  | _ => some (plain text)

/-- The words that texts are. There are none if one of them could mean several options. -/
def ofTexts? : List String → Option (List Word)
  | [] => some []
  | text :: texts =>
    if text = "--" then some (separator :: texts.map plain)
    else
      match ofText? text, ofTexts? texts with
      | some word, some words => some (word :: words)
      | _, _ => none

end Word

/-! ### Reading the command line -/

/-- The options of a run. -/
structure Options where
  /-- The path to the source. -/
  source : String := ""
  language : Option String := none
  configFile : Option String := none
  json : Bool := false
  /-- The path to the page, if one is to be written; an empty one stands for the usual one. -/
  html : Option String := none
  action : Option String := none
  /-- The kind and the name of a declaration. -/
  locate : Option (String × String) := none
  /-- The text of an error. -/
  explain : Option String := none
  llmModel : Option String := none
  deriving DecidableEq, Repr, Inhabited

/-- Why nothing is done. -/
inductive Stop where
  /-- The usage was asked for. -/
  | help
  /-- The command line is wrong. -/
  | misuse
  deriving DecidableEq, Repr

/-- The options read so far. -/
structure Draft where
  options : Options := {}
  /-- Whether the source is known. -/
  hasSource : Bool := false
  /-- Whether a word was read that has no place. -/
  hasExtra : Bool := false
  deriving DecidableEq, Repr, Inhabited

namespace Draft

/-- The draft with the source. -/
def withSource (d : Draft) (source : String) : Draft :=
  { d with options := { d.options with source }, hasSource := true }

/-- The draft after a word that has no place. -/
def withExtra (d : Draft) : Draft := { d with hasExtra := true }

/-- The draft with an option that has no value. -/
def withBare (d : Draft) : Flag → Except Stop Draft
  | .help => .error .help
  | .json => .ok { d with options := { d.options with json := true } }
  | _ => .ok d

/-- The draft with options that have no value. -/
def withAll (d : Draft) : List Flag → Except Stop Draft
  | [] => .ok d
  | f :: fs =>
    match d.withBare f with
    | .ok d => d.withAll fs
    | .error e => .error e

/-- The draft with an option that has one value. -/
def withValue (d : Draft) (f : Flag) (value : String) : Except Stop Draft :=
  match f with
  | .language => .ok { d with options := { d.options with language := some value } }
  | .configFile => .ok { d with options := { d.options with configFile := some value } }
  | .html => .ok { d with options := { d.options with html := some value } }
  | .action => .ok { d with options := { d.options with action := some value } }
  | .explain => .ok { d with options := { d.options with explain := some value } }
  | .llmModel => .ok { d with options := { d.options with llmModel := some value } }
  | _ => .error .misuse

/-- The draft with an option whose value is taken back. The page is then the usual one. -/
def withoutValue (d : Draft) (f : Flag) : Except Stop Draft :=
  match f with
  | .language => .ok { d with options := { d.options with language := none } }
  | .configFile => .ok { d with options := { d.options with configFile := none } }
  | .html => .ok { d with options := { d.options with html := some "" } }
  | .action => .ok { d with options := { d.options with action := none } }
  | .explain => .ok { d with options := { d.options with explain := none } }
  | .llmModel => .ok { d with options := { d.options with llmModel := none } }
  | _ => .error .misuse

/-- The draft with a value behind an equals sign. -/
def withJoined (d : Draft) (f : Flag) (value : String) : Except Stop Draft :=
  if value = "--" then d.withoutValue f else d.withValue f value

/-- The draft with the kind and the name of a declaration. -/
def withPlace (d : Draft) (kind name : String) : Draft :=
  { d with options := { d.options with locate := some (kind, name) } }

/-- The draft with a word that is no option. -/
def withPlain (d : Draft) (text : String) : Draft :=
  if d.hasSource then d.withExtra else d.withSource text

/-- Reads the words behind a draft. An option takes its values from the words behind it, `--html`
only if there is one. The separator has a place next to the source only. -/
def read (d : Draft) : List Word → Except Stop Draft
  | [] => .ok d
  | .plain text :: .separator :: words => (d.withPlain text).read words
  | .plain text :: words => (d.withPlain text).read words
  | .separator :: .plain text :: words => (d.withPlain text).read words
  | .separator :: words => d.withExtra.read words
  | .unknown :: words => d.withExtra.read words
  | .badLetters :: _ => .error .misuse
  | .letters flags :: words =>
    match d.withAll flags with
    | .ok d => d.read words
    | .error e => .error e
  | .long f (some value) :: words =>
    match d.withJoined f value with
    | .ok d => d.read words
    | .error e => .error e
  | .long f none :: words =>
    if f.isBare then
      match d.withBare f with
      | .ok d => d.read words
      | .error e => .error e
    else
      match f, words with
      | .locate, .plain kind :: .plain name :: words => (d.withPlace kind name).read words
      | .locate, _ => .error .misuse
      | f, .plain value :: words =>
        match d.withValue f value with
        | .ok d => d.read words
        | .error e => .error e
      | .html, words =>
        match d.withValue .html "" with
        | .ok d => d.read words
        | .error e => .error e
      | _, _ => .error .misuse

end Draft

/-- The options on a command line. -/
def Options.ofArguments (arguments : List String) : Except Stop Options :=
  match Word.ofTexts? arguments with
  | none => .error .misuse
  | some words =>
    match Draft.read {} words with
    | .error e => .error e
    | .ok d => if d.hasSource && !d.hasExtra then .ok d.options else .error .misuse

end P4Outline
