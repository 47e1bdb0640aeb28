import P4Outline.Command.Run
import P4Outline.Command.Standard

/-!
# The command line

All that happens outside: the files that a run may look at are read, its surroundings are made of
them, and what it printed and wrote is put where it belongs. There is no connection to the provider
of the language model, so that every question is refused.
-/

namespace P4Outline.CommandLine

open P4Outline

/-- The environment, as the system keeps it for a process. -/
def environment : IO (List (String × String)) := do
  try
    let bytes ← IO.FS.readBinFile "/proc/self/environ"
    return (Text.pieces '\x00' (Text.decodeLossy bytes.toList)).filterMap fun entry =>
      (Text.cut? ['='] entry).map fun (name, value) => (String.ofList name, String.ofList value)
  catch _ => return (← IO.getEnv "HOME").toList.map (("HOME", ·))

/-- The site with the file at a path, if it can be read. -/
def withFile (site : Site) (path : String) : IO Site := do
  try
    let bytes ← IO.FS.readBinFile path
    let location := ((Path.ofText path).resolve site.workDir).names
    return { site with files := site.files ++ [(location, bytes.toList)] }
  catch _ => return site

/-- The paths that a run looks at before it has its settings. -/
def firstPaths (site : Site) (o : Options) : List String :=
  let source := (Path.ofText o.source).expandHome? site.home
  settingsNames ++ o.configFile.toList ++ source.toList.map Path.text

/-- The path to the template that the settings name. -/
def templatePath? (site : Site) (o : Options) : Option String :=
  match Settings.load Platform.standard.documents site o.configFile none with
  | .ok s =>
    match s.get "paths.explain_prompt_file_path" .null with
    | .text path => some (projectPath site path).text
    | _ => none
  | .error _ => none

/-- The surroundings of a run, as far as it looks at them. -/
def surroundings (arguments : List String) : IO Site := do
  let workDir := (Path.ofText (← IO.currentDir).toString).names
  let bare : Site := { workDir, environment := ← environment, projectRoot := ⟨"/", workDir⟩ }
  match Options.ofArguments arguments with
  | .error _ => return bare
  | .ok o =>
    let site ← (firstPaths bare o).foldlM withFile bare
    (templatePath? site o).toList.foldlM withFile site

/-- Writes a file, and the directories that it needs. -/
def writeFile (location : List String) (content : List UInt8) : IO Unit := do
  IO.FS.createDirAll (Path.mk "/" location.dropLast).text
  IO.FS.writeBinFile (Path.mk "/" location).text ⟨content.toArray⟩

end P4Outline.CommandLine

open P4Outline P4Outline.CommandLine in
/-- Runs the program with the arguments of the command line. -/
def main (arguments : List String) : IO UInt32 := do
  let site ← surroundings arguments
  match P4Outline.run .standard site (.refusal "Connection error.") arguments with
  | .error e =>
    IO.eprintln e.message
    return 1
  | .ok o =>
    for (location, content) in o.site.files do
      if site.files.lookup location != some content then writeFile location content
    IO.print (String.ofList o.printed)
    return o.code.toUInt32
