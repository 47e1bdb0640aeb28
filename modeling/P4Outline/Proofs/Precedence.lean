import P4Outline.Config.Access
import P4Outline.Proofs.Tree
import P4Outline.Yaml.Document

/-!
# Which setting wins

Settings come from four places: the variables that replace values, the file that is laid over the
base file, the base file, and the default of whoever asks. The value of a variable is taken as it
is; what the files have is taken with its references read.

Of the reader of documents all that counts is that it makes no mapping with a key twice.

* `DocumentReader.KeysDistinct`, `Yaml.keysDistinct_readFile`: such readers, and that there is one.
* `Settings.at?_foldl_of_mem`, `Settings.at?_foldl_of_untouched`: what the variables replace, and
  what they do not.
* `Settings.get_of_load`: what settings have at an address.
-/

namespace P4Outline

open P4Outline.Text

theorem exists_of_bind_eq_ok {ε α β : Type _} {x : Except ε α} {f : α → Except ε β} {b : β}
    (h : x >>= f = .ok b) :
    ∃ a, x = .ok a ∧ f a = .ok b := by
  cases x with
  | error e => cases h
  | ok a => exact ⟨a, rfl, h⟩

/-! ### Keys of documents -/

theorem Value.distinct_of_not_isMap {v : Value} (h : v.isMap = false) : v.Distinct := by
  cases v with
  | map entries => cases h
  | _ => unfold Value.Distinct; trivial

theorem Entries.distinct_ofEntries {entries : Entries} (h : ∀ e ∈ entries, e.2.Distinct) :
    Entries.Distinct (Value.ofEntries entries) := by
  have hfold (entries lower : Entries) (hlower : Entries.Distinct lower)
      (h : ∀ e ∈ entries, e.2.Distinct) :
      Entries.Distinct (entries.foldl (fun m e => Value.store e.1 e.2 m) lower) := by
    induction entries generalizing lower with
    | nil => exact hlower
    | cons e entries ih =>
      obtain ⟨he, hentries⟩ := List.forall_mem_cons.1 h
      exact ih _ (Entries.distinct_store hlower e.1 he) hentries
  exact hfold entries [] Entries.distinct_nil h

/-- Whether in the mappings of what a reader reads no text is a key twice. -/
def DocumentReader.KeysDistinct (reader : DocumentReader) : Prop :=
  ∀ content v, reader content = .ok v → v.Distinct

namespace Yaml

theorem isMap_of_baseNumeral? {negative : Bool} {base : Nat} {digits : Char → Bool}
    {cs : List Char} {v : Value} (h : baseNumeral? negative base digits cs = some (.ok v)) :
    v.isMap = false := by
  unfold baseNumeral? at h
  split at h
  · cases h
  · split at h
    · cases h
    · cases h
      rfl

theorem isMap_of_wholeNumber? {negative : Bool} {cs : List Char} {v : Value}
    (h : wholeNumber? negative cs = some (.ok v)) : v.isMap = false := by
  unfold wholeNumber? at h
  split at h
  · cases h
    rfl
  · exact isMap_of_baseNumeral? h
  · exact isMap_of_baseNumeral? h
  · split at h
    · cases h
      rfl
    · cases h
  · split at h
    · dsimp only at h
      split at h
      · cases h
      · cases h
        rfl
    · cases h
  · cases h

/-- A plain scalar is no mapping. -/
theorem isMap_of_plainValue {cs : List Char} {v : Value} (h : plainValue cs = .ok v) :
    v.isMap = false := by
  unfold plainValue at h
  dsimp only at h
  split at h
  · cases h
    rfl
  · split at h
    · cases h
      rfl
    · split at h
      · cases h
        rfl
      · split at h
        · cases h
        · split at h
          · next hread => exact isMap_of_wholeNumber? (by rw [hread, h])
          · split at h
            · cases h
              rfl
            · cases h
              rfl

mutual

theorem Node.distinct_of_value {n : Node} {v : Value} (h : n.value = .ok v) : v.Distinct := by
  -- mappings are built key by key, each new value in the place of an old one; nothing within lists
  -- and mappings has to be told of
  cases n with
  | scalar plain text =>
    unfold Node.value at h
    split at h
    · exact Value.distinct_of_not_isMap (isMap_of_plainValue h)
    · cases h
      exact Value.distinct_of_not_isMap rfl
  | sequence items =>
    unfold Node.value at h
    cases hitems : Node.values items with
    | error e => rw [hitems] at h; cases h
    | ok vs =>
      rw [hitems] at h
      cases h
      exact Value.distinct_of_not_isMap rfl
  | mapping entries =>
    unfold Node.value at h
    cases hentries : Node.entryValues entries with
    | error e => rw [hentries] at h; cases h
    | ok es =>
      rw [hentries] at h
      cases h
      unfold Value.Distinct
      exact Entries.distinct_ofEntries (Node.distinct_of_entryValues hentries)

theorem Node.distinct_of_entryValues {nodes : List (Node × Node)} {entries : Entries}
    (h : Node.entryValues nodes = .ok entries) : ∀ e ∈ entries, e.2.Distinct := by
  cases nodes with
  | nil =>
    unfold Node.entryValues at h
    cases h
    simp
  | cons n nodes =>
    obtain ⟨k, n⟩ := n
    unfold Node.entryValues at h
    obtain ⟨key, -, h⟩ := exists_of_bind_eq_ok h
    split at h
    · cases h
    · obtain ⟨value, hvalue, h⟩ := exists_of_bind_eq_ok h
      obtain ⟨es, hes, h⟩ := exists_of_bind_eq_ok h
      cases h
      exact List.forall_mem_cons.2 ⟨Node.distinct_of_value hvalue, Node.distinct_of_entryValues hes⟩

end

/-- In the mappings of a document no text is a key twice. -/
theorem distinct_of_read {cs : List Char} {v : Value} (h : read cs = .ok v) : v.Distinct := by
  unfold read at h
  obtain ⟨tokens, -, h⟩ := exists_of_bind_eq_ok h
  obtain ⟨node?, -, h⟩ := exists_of_bind_eq_ok h
  cases node? with
  | none =>
    cases h
    exact Value.distinct_of_not_isMap rfl
  | some node => exact Node.distinct_of_value h

theorem keysDistinct_readFile : DocumentReader.KeysDistinct readFile := by
  intro content v h
  unfold readFile at h
  split at h
  · cases h
  · split at h
    · next hread =>
      cases h
      exact distinct_of_read hread
    · cases h
    · cases h

end Yaml

/-! ### Variables that replace values -/

namespace Settings

/-- One variable that may replace a value, with the address of that. -/
def applyOverride (valueOf? : String → Option String) (entries : Entries) (o : String × String) :
    Entries :=
  match valueOf? o.1 with
  | some value => entries.put (.text value) (keysOfAddress o.2)
  | none => entries

theorem applyOverrides_eq (valueOf? : String → Option String) (entries : Entries) :
    applyOverrides valueOf? entries = overrides.foldl (applyOverride valueOf?) entries := by
  rfl

/-- Whether keys lead neither to, nor past, nor part of the way to what a variable replaces that is
set. -/
def Untouched (valueOf? : String → Option String) (keys : List String)
    (os : List (String × String)) : Prop :=
  ∀ o ∈ os, (valueOf? o.1).isSome → Apart keys (keysOfAddress o.2)

instance (valueOf? : String → Option String) (keys : List String) (os : List (String × String)) :
    Decidable (Untouched valueOf? keys os) :=
  inferInstanceAs (Decidable (∀ o ∈ os, (valueOf? o.1).isSome → Apart keys (keysOfAddress o.2)))

theorem at?_foldl_of_untouched {valueOf? : String → Option String} {keys : List String}
    {os : List (String × String)} (h : Untouched valueOf? keys os) (entries : Entries) :
    Value.at? keys (.map (os.foldl (applyOverride valueOf?) entries)) =
      Value.at? keys (.map entries) := by
  induction os generalizing entries with
  | nil => rfl
  | cons o os ih =>
    obtain ⟨ho, hos⟩ := List.forall_mem_cons.1 h
    rw [List.foldl_cons, ih hos, applyOverride]
    cases hvalue : valueOf? o.1 with
    | none => rfl
    | some value => exact Entries.at?_put_of_apart (ho (by rw [hvalue]; rfl)) _ _

/-- A value that is replaced stays so, if the addresses of all variables are apart. -/
theorem at?_foldl_of_mem {valueOf? : String → Option String} {os : List (String × String)}
    (hos : os.Pairwise fun a b => Apart (keysOfAddress a.2) (keysOfAddress b.2))
    {o : String × String} (ho : o ∈ os) {value : String} (hvalue : valueOf? o.1 = some value)
    (entries : Entries) :
    Value.at? (keysOfAddress o.2) (.map (os.foldl (applyOverride valueOf?) entries)) =
      some (.text value) := by
  have hkeys : keysOfAddress o.2 ≠ [] := by
    intro hnil
    exact pieces_ne_nil '.' o.2.toList (List.map_eq_nil_iff.1 hnil)
  induction os generalizing entries with
  | nil => cases ho
  | cons o' os ih =>
    obtain ⟨hfirst, hrest⟩ := List.pairwise_cons.1 hos
    rw [List.foldl_cons]
    rcases List.mem_cons.1 ho with rfl | ho
    -- the overrides behind this one have other addresses, and leave its value alone
    · rw [at?_foldl_of_untouched fun b hb _ => hfirst b hb, applyOverride, hvalue]
      exact Entries.at?_put hkeys _ _
    · exact ih hrest ho _

/-- No variable replaces what another one replaces, nor a part of it. -/
theorem overrides_apart :
    overrides.Pairwise fun a b => Apart (keysOfAddress a.2) (keysOfAddress b.2) := by
  decide +kernel

/-! ### What settings have -/

/-- What is found, or a default if nothing is found, or null. -/
def orDefault (default : Value) : Option Value → Value
  | none | some .null => default
  | some v => v

theorem get_eq (s : Settings) (address : String) (default : Value) :
    s.get address default =
      orDefault default (Value.at? (keysOfAddress address) (.map s.entries)) := by
  unfold get find?
  cases Value.at? (keysOfAddress address) (.map s.entries) with
  | none => rfl
  | some v => cases v <;> rfl

theorem distinct_of_readEntries {reader : DocumentReader} (hreader : reader.KeysDistinct)
    {file : String} {content : List UInt8} {entries : Entries}
    (h : readEntries reader file content = .ok entries) : Entries.Distinct entries := by
  unfold readEntries at h
  split at h
  · next hread =>
    cases h
    have hmap := hreader _ _ hread
    unfold Value.Distinct at hmap
    exact hmap
  · cases h
    exact Entries.distinct_nil
  all_goals cases h

theorem distinct_of_overlayEntries {reader : DocumentReader} (hreader : reader.KeysDistinct)
    {site : Site} {overlay : Option String} {upper : Entries}
    (h : overlayEntries reader site overlay = .ok upper) : Entries.Distinct upper := by
  unfold overlayEntries at h
  split at h
  · cases h; exact Entries.distinct_nil
  · cases h; exact Entries.distinct_nil
  · split at h
    · exact distinct_of_readEntries hreader h
    · cases h; exact Entries.distinct_nil

/-- The entries of the two files as they are before any variable replaces a value. -/
theorem at?_merged (valueOf? : String → Option String) (keys : List String) (base upper : Entries) :
    Value.at? keys (.map (Value.expandEntries valueOf? (Entries.overlay base upper))) =
      (Value.at? keys ((Value.map upper).overlay (some (.map base)))).map
        (Value.expand valueOf?) := by
  rw [Value.overlay_map_map, ← Value.at?_expand]
  conv => rhs; unfold Value.expand

theorem load_eq {reader : DocumentReader} {site : Site} {file overlay : Option String}
    {name : String} {content : List UInt8} {base upper : Entries}
    (hfile : baseFile site file = .ok (name, content))
    (hbase : readEntries reader name content = .ok base)
    (hupper : overlayEntries reader site overlay = .ok upper) :
    load reader site file overlay = .ok ⟨name, applyOverrides site.valueOf?
      (Value.expandEntries site.valueOf? (Entries.overlay base upper))⟩ := by
  unfold load
  rw [hfile, hupper]
  show (readEntries reader name content >>= _) = _
  rw [hbase]
  rfl

/-- A variable that is set gives the value at its address, whatever the files have there or on the
way. At any other address that leads neither to, nor past, nor part of the way to one of those, the
file that is laid over the base file gives what it has: a mapping laid over the mapping that the
base file has there, if it has one, anything else as it is. What it does not have it hides if it has
no mapping but something else on the way; otherwise the base file gives what it has. References are
read in what the files give, and the default stands for what is missing or null. -/
theorem get_of_load {reader : DocumentReader} (hreader : reader.KeysDistinct) {site : Site}
    {file overlay : Option String} {name : String} {content : List UInt8} {base upper : Entries}
    (hfile : baseFile site file = .ok (name, content))
    (hbase : readEntries reader name content = .ok base)
    (hupper : overlayEntries reader site overlay = .ok upper) :
    ∃ s, load reader site file overlay = .ok s ∧
      (∀ o ∈ overrides, ∀ value, site.valueOf? o.1 = some value →
        ∀ default, s.get o.2 default = .text value) ∧
      ∀ address, Untouched site.valueOf? (keysOfAddress address) overrides → ∀ default,
        (∀ v, Value.at? (keysOfAddress address) (.map upper) = some v →
          s.get address default = orDefault default
            (some
              ((v.overlay (Value.at? (keysOfAddress address) (.map base))).expand site.valueOf?))) ∧
        (Value.at? (keysOfAddress address) (.map upper) = none →
          Value.Blocks (keysOfAddress address) (.map upper) → s.get address default = default) ∧
        (Value.at? (keysOfAddress address) (.map upper) = none →
          ¬ Value.Blocks (keysOfAddress address) (.map upper) →
          s.get address default = orDefault default
            ((Value.at? (keysOfAddress address) (.map base)).map
              (Value.expand site.valueOf?))) := by
  refine ⟨_, load_eq hfile hbase hupper, ?_, ?_⟩
  -- the overrides are told apart by their addresses, so that none undoes another
  · intro o ho value hvalue default
    rw [get_eq, applyOverrides_eq, at?_foldl_of_mem overrides_apart ho hvalue]
    rfl
  · intro address huntouched default
    -- one value to a key is all that laying a tree over another asks of the upper one
    have hdistinct : (Value.map upper).Distinct := by
      unfold Value.Distinct
      exact distinct_of_overlayEntries hreader hupper
    obtain ⟨hhas, hblocks, hleaves⟩ :=
      Value.at?_overlay hdistinct (some (.map base)) (keysOfAddress address)
    rw [get_eq, applyOverrides_eq, at?_foldl_of_untouched huntouched, at?_merged]
    refine ⟨?_, ?_, ?_⟩
    · intro v hv
      rw [hhas v hv]
      rfl
    · intro hnone hb
      rw [hblocks hnone hb]
      rfl
    · intro hnone hb
      rw [hleaves hnone hb]
      rfl

/-- The settings of a base file. -/
def baseText : String :=
"llm:
  model: small
  timeout: 5
  organization: $\x7bTEAM:-none\x7d
logging:
  level: DEBUG
"

/-- Settings to be laid over them. -/
def localText : String :=
"llm:
  model: medium
  timeout: $\x7bLIMIT:-30\x7d
logging: quiet
"

def twoFiles : Site where
  files := [(["base.yaml"], encode baseText), (["local.yaml"], encode localText)]
  environment := [("LLM_MODEL", "large"), ("TEAM", "p4")]

theorem exists_of_any_toOption {ε α : Type _} {x : Except ε α} {p : α → Bool}
    (h : x.toOption.any p = true) :
    ∃ a, x = .ok a ∧ p a = true := by
  cases x with
  | error e => cases h
  | ok a => exact ⟨a, rfl, h⟩

theorem eq_text_of_any {found : Option Value} {text : String}
    (h : found.any (·.sameKey (.text text)) = true) :
    found = some (.text text) := by
  cases found with
  | none => cases h
  | some v => rw [Value.sameKey_text_iff.1 h]

/-- The variable wins over both files, the upper file over the base file, and what the upper file
has in the way of the level hides it. -/
theorem get_of_twoFiles :
    ∃ s, load Yaml.readFile twoFiles (some "base.yaml") (some "local.yaml") = .ok s ∧
    s.get "llm.model" .null = .text "large" ∧ s.get "llm.timeout" .null = .text "30" ∧
      s.get "llm.organization" .null = .text "p4" ∧
        s.get "logging.level" (.text "INFO") = .text "INFO" := by
  have hread : twoFiles.read? "base.yaml" = some (encode baseText) := by decide +kernel
  have hfile : baseFile twoFiles (some "base.yaml") = .ok ("base.yaml", encode baseText) := by
    unfold baseFile
    split
    · next h => cases h
    · next h => exact absurd h (by decide)
    · next name _ h =>
      cases h
      rw [hread]
  -- both files are read once, and of what they hold only what the addresses lead to is kept
  obtain ⟨base, hbase, hb⟩ :=
    @exists_of_any_toOption _ _ (readEntries Yaml.readFile "base.yaml" (encode baseText))
      (fun base => (Value.at? (keysOfAddress "llm.organization") (.map base)).any
        (·.sameKey (.text "$\x7bTEAM:-none\x7d"))) (by decide +kernel)
  obtain ⟨upper, hupper, hu⟩ :=
    @exists_of_any_toOption _ _ (overlayEntries Yaml.readFile twoFiles (some "local.yaml"))
      (fun upper =>
      (Value.at? (keysOfAddress "llm.timeout") (.map upper)).any (·.sameKey
        (.text "$\x7bLIMIT:-30\x7d")) &&
      (Value.at? (keysOfAddress "llm.organization") (.map upper)).isNone &&
      !Value.blocks (keysOfAddress "llm.organization") (.map upper) &&
      (Value.at? (keysOfAddress "logging.level") (.map upper)).isNone &&
      Value.blocks (keysOfAddress "logging.level") (.map upper)) (by decide +kernel)
  simp only [Bool.and_eq_true, Option.isNone_iff_eq_none, Bool.not_eq_eq_eq_not,
    Bool.not_true] at hu
  obtain ⟨⟨⟨⟨htimeout, hteam⟩, hfree⟩, hlevel⟩, hquiet⟩ := hu
  have hexpand (text : String) : (Value.text text).expand twoFiles.valueOf? =
      .text (String.ofList (expand twoFiles.valueOf? text.toList)) := by
    unfold Value.expand
    rfl
  obtain ⟨s, hs, hset, hget⟩ := get_of_load Yaml.keysDistinct_readFile hfile hbase hupper
  refine ⟨s, hs, hset ("LLM_MODEL", "llm.model") (by decide +kernel) "large"
    (by decide +kernel) .null, ?_, ?_, ?_⟩
  · rw [(hget "llm.timeout" (by decide +kernel) .null).1 _ (eq_text_of_any htimeout),
      Value.overlay_of_not_isMap rfl]
    rw [hexpand, show String.ofList (expand twoFiles.valueOf? "$\x7bLIMIT:-30\x7d".toList) =
      "30" by decide +kernel]
    rfl
  · rw [(hget "llm.organization" (by decide +kernel) .null).2.2 hteam
      (by rw [← Value.blocks_iff, hfree]; simp), eq_text_of_any hb, Option.map_some]
    rw [hexpand, show String.ofList (expand twoFiles.valueOf? "$\x7bTEAM:-none\x7d".toList) =
      "p4" by decide +kernel]
    rfl
  · exact (hget "logging.level" (by decide +kernel) (.text "INFO")).2.1 hlevel
      (Value.blocks_iff.1 hquiet)

end Settings

end P4Outline
