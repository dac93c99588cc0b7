/-
  PlotTypes.Places — the places that every system has.

  Programs, the device that swallows everything, and the directories around them. A run
  on its own files starts with these places in their file system.
-/

import PlotTypes.Files

namespace PlotTypes

namespace Places

/-- A place as an absolute path. -/
def pathOf (p : Place) : String := "/" ++ String.intercalate "/" p

/-- The directories of programs, in the order in which they are searched. -/
def programDirectories : List Place :=
  [["usr", "local", "sbin"], ["usr", "local", "bin"], ["usr", "sbin"], ["usr", "bin"], ["sbin"], ["bin"]]

def programNames : List String := ["cat", "dash", "echo", "false", "sh", "sleep", "tr", "true", "wc"]

def programs : List (Place × Entry) :=
  [["usr", "bin"], ["bin"]].flatMap fun (d : Place) => programNames.map fun name => (d ++ [name], .program)

def directories : List (Place × Entry) :=
  ([["dev"], ["etc"], ["root"], ["tmp"], ["usr"], ["usr", "local"]] ++ programDirectories).map (·, .directory)

def plainFiles : List (Place × Entry) :=
  [(["dev", "null"], .device), (["etc", "passwd"], .file (Text.Utf8.encode "root:x:0:0:root:/root:/bin/bash\n"))]

/-- The places above a place, and itself. -/
def ancestors (p : Place) : List (Place × Entry) :=
  (List.range p.length).map fun i => (p.take (i + 1), .directory)

end Places

/-- The usual places with one empty working directory. -/
def Files.usual (current : Place) : Files :=
  ⟨Places.ancestors current ++ Places.programs ++ Places.directories ++ Places.plainFiles, current⟩

end PlotTypes
