import Mathlib
import ProcTrace.Proofs.Settings.Paths
import ProcTrace.Proofs.Text.Utf8
import ProcTrace.Settings.Load

/-!
# The file beside

A configuration is loaded with the file at a path. Where there is none, another file is looked for:
the one **beside** it, with the extension appended to its name. No other file has a part in what is
loaded (`loadFrom_congr`). The file beside has one, though, whatever the path and the environment: a
path without two dots can be told apart from a name with no file beside it by nothing else
(`exists_only_beside`).

The main statement, `loadFrom_beside`, says for which paths the file at the path is the only one
that is read: those that have no name to append the extension to. For all others the configuration
of a missing file need not be that of the environment and the defaults.
-/

namespace ProcTrace.Settings

variable {room : Room}

/-! ### What is read -/

/-- The content of the file **beside** a path: the one with the extension in its name. -/
def Files.beside? (fs : Files) (path : String) : Option Text.Bytes :=
  (extend? path fileExtension).bind fs.read?

/-- The configuration without a file: that of the environment and the defaults. -/
def configWithout (room : Room) (env : Environment) : Except Crash (Except Fault TracerConfig) :=
  configWith room env []

/-- Where there is no file at the path, the one beside it is found. -/
private theorem findFile_of_missing {fs : Files} {path : String} (hread : fs.read? path = none) :
    findFile fs path =
      (fs.beside? path).bind fun bytes => (Files.extend? path fileExtension).map (·, bytes) := by
  unfold findFile Files.beside?
  rw [hread]
  rcases Files.extend? path fileExtension with _ | path'
  · rfl
  · rcases hbeside : fs.read? path' with _ | bytes <;>
      simp only [Option.bind_eq_bind, Option.bind_some, Option.bind_none, Option.map_some, hbeside]

private theorem findFile_congr {fs fs' : Files} {path : String}
    (hread : fs.read? path = fs'.read? path)
    (hbeside : fs.read? path = none → fs.beside? path = fs'.beside? path) :
    findFile fs path = findFile fs' path := by
  rcases hhere : fs.read? path with _ | bytes
  · rw [findFile_of_missing hhere, findFile_of_missing (hread ▸ hhere), hbeside hhere]
  · simp only [findFile, ← hread, hhere]

/-- **Of all files, the one at the path counts, or else the one beside it.** -/
theorem loadFrom_congr {h h' : Host} {path : String} (henv : h.environment = h'.environment)
    (hread : h.files.read? path = h'.files.read? path)
    (hbeside : h.files.read? path = none → h.files.beside? path = h'.files.beside? path) :
    loadFrom room h path = loadFrom room h' path := by
  simp only [loadFrom, fileLayer, findFile_congr hread hbeside, henv]

/-- Without either file there are no settings of a file. -/
private theorem fileLayer_of_missing {fs : Files} {path : String} (hread : fs.read? path = none)
    (hbeside : fs.beside? path = none) : fileLayer fs path = .ok [] := by
  simp only [fileLayer, findFile_of_missing hread, hbeside, Option.bind_none]

/-- So it is, for every path, where there are no files. -/
theorem fileLayer_of_contents_eq_nil {fs : Files} (h : fs.contents = []) (path : String) :
    fileLayer fs path = .ok [] := by
  have hread := Files.read?_of_contents_eq_nil h
  refine fileLayer_of_missing (hread path) ?_
  rw [Files.beside?, Option.bind_eq_none_iff]
  exact fun path' _ => hread path'

/-- Without settings of a file, the environment is laid over the defaults. -/
theorem loadFrom_of_fileLayer_eq_nil {h : Host} {path : String}
    (hlayer : fileLayer h.files path = .ok []) :
    loadFrom room h path = configWithout room h.environment := by
  simp only [loadFrom, hlayer, configWithout]

/-- A file beside the path that is a text and no TOML is a fault. -/
private theorem loadFrom_of_illFormed {h : Host} {path : String} {bytes : Text.Bytes}
    {cs : List Char} {place : Toml.Place} (hread : h.files.read? path = none)
    (hbeside : h.files.beside? path = some bytes) (htext : Text.Utf8.decode? bytes = some cs)
    (hparse : Toml.parse (String.ofList cs) = .error place) :
    loadFrom room h path = .ok (.error (.illFormed place.line place.column)) := by
  obtain ⟨path', hpath, -⟩ := Option.bind_eq_some_iff.mp hbeside
  simp only [loadFrom, fileLayer, findFile_of_missing hread, hbeside, hpath, Option.bind_some,
    Option.map_some, htext, hparse]

/-! ### A single file beside a path -/

/-- A path to which the extension can be appended has a name, after which nothing leads on. -/
private theorem exists_of_extend? {path path' : String}
    (h : Files.extend? path fileExtension = some path') :
    ∃ init name stills, Files.parts path = init ++ name :: stills ∧ Files.isStill name = false ∧
      name ≠ ".." ∧ (∀ part ∈ stills, Files.isStill part) ∧
      path' = "/".intercalate (init ++ [name ++ fileExtension]) := by
  unfold Files.extend? at h
  rcases hrest : (Files.parts path).reverse.dropWhile Files.isStill with _ | ⟨name, rest⟩
  · simp only [hrest, reduceCtorEq] at h
  · simp only [hrest] at h
    split_ifs at h with hback
    have hparts : Files.parts path = rest.reverse ++
        name :: ((Files.parts path).reverse.takeWhile Files.isStill).reverse := by
      have hcut := List.takeWhile_append_dropWhile (p := Files.isStill)
        (l := (Files.parts path).reverse)
      rw [hrest] at hcut
      simpa using (congrArg List.reverse hcut).symm
    refine ⟨rest.reverse, name, _, hparts, ?_, hback, fun part hpart => ?_, ?_⟩
    · have hhead := List.head?_dropWhile_not Files.isStill (Files.parts path).reverse
      rw [hrest] at hhead
      simpa using hhead
    · exact List.all_eq_true.mp List.all_takeWhile part (List.mem_reverse.mp hpart)
    · simpa using (Option.some.inj h).symm

/-- A name with the extension is longer than the name, and than the parts that name nothing. -/
private theorem length_extended (name : String) :
    (name ++ fileExtension).length = name.length + 5 := by
  rw [String.length_append]
  rfl

/-- A name with the extension names a file. -/
private theorem isStill_extended (name : String) :
    Files.isStill (name ++ fileExtension) = false := by
  have hlength := length_extended name
  have hne (part : String) (hpart : part.length < 5) : name ++ fileExtension ≠ part := by
    rintro rfl
    omega
  simp [Files.isStill, hne "" (by decide), hne "." (by decide)]

/-- A root directory with a single file, in it or below it. -/
def Files.only (file : List String) (bytes : Text.Bytes) : Files :=
  ⟨[], [(file, bytes)]⟩

private theorem read?_only (file : List String) (bytes : Text.Bytes) (path : String) :
    (Files.only file bytes).read? path = (Files.only file bytes).walk [] (Files.parts path) := by
  unfold Files.read?
  rw [Files.only, ite_self]

private theorem lookup_only {file names : List String} {bytes found : Text.Bytes}
    (h : (Files.only file bytes).contents.lookup names = some found) : names = file := by
  by_contra hne
  have hbeq : (names == file) = false := by simpa using hne
  simp [Files.only, List.lookup, hbeq] at h

/-- Every start of the way to the single file is a directory. -/
private theorem isDirectory_only {dirs : List String} {name : String} {bytes : Text.Bytes}
    {ds : List String} (h : ds <+: dirs) : (Files.only (dirs ++ [name]) bytes).isDirectory ds := by
  have hprefix : ds <+: dirs ++ [name] := h.trans (List.prefix_append ..)
  have hlength : ds.length < dirs.length + 1 := Nat.lt_succ_of_le h.length_le
  simp [Files.isDirectory, Files.only, hprefix, hlength]

/-- **There can be a file beside every path that has a name**, and none at the path. -/
theorem exists_only_beside {path : String} (hstraight : ".." ∉ Files.parts path)
    (h : Files.extend? path fileExtension ≠ none) :
    ∃ file, ∀ bytes, (Files.only file bytes).read? path = none ∧
      (Files.only file bytes).beside? path = some bytes := by
  obtain ⟨path', hpath⟩ := Option.ne_none_iff_exists'.mp h
  obtain ⟨init, name, stills, hparts, hname, -, hstills, rfl⟩ := exists_of_extend? hpath
  have hlength := length_extended name
  refine ⟨init.filter (!Files.isStill ·) ++ [name ++ fileExtension], fun bytes => ⟨?_, ?_⟩⟩
  · -- The last name of the single file has the extension, so that the path does not lead to it.
    rw [read?_only, Option.eq_none_iff_forall_ne_some]
    intro found hfound
    obtain ⟨dir, last, hlast, hstill, hlookup⟩ := Files.exists_lookup_of_walk hfound
    have hextended : last = name ++ fileExtension :=
      (List.append_inj_right' (lookup_only hlookup) rfl) |> List.singleton_inj.mp
    have hmem : last ∈ name :: stills := by
      rw [hparts, List.getLast?_append_cons] at hlast
      exact List.mem_of_getLast? hlast
    obtain rfl | hmem := List.mem_cons.mp hmem
    · have := congrArg String.length hextended
      omega
    · rw [hstills last hmem] at hstill
      cases hstill
  · have hinit : ".." ∉ init := fun hmem => hstraight (hparts ▸ List.mem_append_left _ hmem)
    have hback : name ++ fileExtension ≠ ".." := by
      intro heq
      rw [heq] at hlength
      have htwo : "..".length = 2 := rfl
      omega
    have hpieces : ∀ part ∈ init ++ [name ++ fileExtension], '/' ∉ part.toList := by
      intro part hpart
      obtain hpart | hpart := List.mem_append.mp hpart
      · exact Files.slash_notMem_of_mem_parts (hparts ▸ List.mem_append_left _ hpart)
      · have hslash : '/' ∉ name.toList :=
          Files.slash_notMem_of_mem_parts (hparts ▸ by simp : name ∈ Files.parts path)
        rw [List.mem_singleton.mp hpart, String.toList_append]
        simp [hslash, fileExtension]
    have hdirs : ∀ ds, ds <+: init.filter (!Files.isStill ·) → ds ≠ [] →
        (Files.only (init.filter (!Files.isStill ·) ++ [name ++ fileExtension]) bytes).isDirectory
          ([] ++ ds) :=
      fun ds hds _ => isDirectory_only hds
    rw [Files.beside?, hpath, Option.bind_some, read?_only,
      Files.parts_intercalate (List.append_ne_nil_of_right_ne_nil _ (List.cons_ne_nil _ _)) hpieces,
      Files.walk_straight hinit hdirs (isStill_extended name) hback]
    simp [Files.only]

/-! ### The main statement -/

/-- What is beside the path is seen: two files there, neither of which is TOML, are faults in
different places. -/
private theorem exists_ne_of_extend? {path : String} (hstraight : ".." ∉ Files.parts path)
    (h : Files.extend? path fileExtension ≠ none) (env : Environment) (home : String) :
    ∃ fs fs' : Files, fs.read? path = none ∧ fs'.read? path = none ∧
      loadFrom room ⟨fs, env, home⟩ path ≠ loadFrom room ⟨fs', env, home⟩ path := by
  obtain ⟨file, hfile⟩ := exists_only_beside hstraight h
  have hload (text : String) (place : Toml.Place)
      (hparse : Toml.parse (String.ofList text.toList) = .error place) :
      loadFrom room ⟨Files.only file (Text.Utf8.encode text.toList), env, home⟩ path =
        .ok (.error (.illFormed place.line place.column)) :=
    loadFrom_of_illFormed (hfile _).1 (hfile _).2 (Text.Utf8.decode?_encode _) hparse
  refine ⟨_, _, (hfile (Text.Utf8.encode "url = x".toList)).1,
    (hfile (Text.Utf8.encode "\nurl = x".toList)).1, ?_⟩
  rw [hload "url = x" ⟨1, 7⟩ (by cbv), hload "\nurl = x" ⟨2, 7⟩ (by cbv)]
  simp

/-- What the configuration with the file at a path depends on: that file, or else the one beside
it, and the environment. -/
structure LoadsBeside (room : Room) (path : String) : Prop where
  /-- A file at the path is all that is read. -/
  present (h h' : Host) (bytes : Text.Bytes) (henv : h.environment = h'.environment)
    (hread : h.files.read? path = some bytes) (hread' : h'.files.read? path = some bytes) :
    loadFrom room h path = loadFrom room h' path
  /-- Where there is none, the file beside it is all that is read. -/
  absent (h h' : Host) (henv : h.environment = h'.environment)
    (hread : h.files.read? path = none) (hread' : h'.files.read? path = none)
    (hbeside : h.files.beside? path = h'.files.beside? path) :
    loadFrom room h path = loadFrom room h' path
  /-- Without either, the environment is laid over the defaults. -/
  without (h : Host) (hread : h.files.read? path = none) (hbeside : h.files.beside? path = none) :
    loadFrom room h path = configWithout room h.environment
  /-- The file at the path is the only one that counts, if and only if the path has no name to
  append the extension to. -/
  only_iff (hstraight : ".." ∉ Files.parts path) (env : Environment) (home : String) :
    (∀ fs fs' : Files, fs.read? path = fs'.read? path →
      loadFrom room ⟨fs, env, home⟩ path = loadFrom room ⟨fs', env, home⟩ path) ↔
      Files.extend? path fileExtension = none
  /-- So it is for the configuration of a file that is missing. -/
  without_iff (hstraight : ".." ∉ Files.parts path) (env : Environment) (home : String) :
    (∀ fs : Files, fs.read? path = none →
      loadFrom room ⟨fs, env, home⟩ path = configWithout room env) ↔
      Files.extend? path fileExtension = none

/-- There is no file beside a path without a name. -/
private theorem beside?_of_extend?_eq_none {path : String}
    (h : Files.extend? path fileExtension = none) (fs : Files) : fs.beside? path = none := by
  rw [Files.beside?, h, Option.bind_none]

/-- **A configuration is loaded with the file at the path, or else with the one beside it.** -/
theorem loadFrom_beside (room : Room) (path : String) : LoadsBeside room path where
  present h h' bytes henv hread hread' := by
    refine loadFrom_congr henv (hread.trans hread'.symm) fun hmissing => ?_
    rw [hmissing] at hread
    cases hread
  absent h h' henv hread hread' hbeside :=
    loadFrom_congr henv (hread.trans hread'.symm) fun _ => hbeside
  without h hread hbeside := loadFrom_of_fileLayer_eq_nil (fileLayer_of_missing hread hbeside)
  only_iff hstraight env home := by
    constructor
    · intro hsame
      by_contra hpath
      obtain ⟨fs, fs', hread, hread', hne⟩ := exists_ne_of_extend? hstraight hpath env home
      exact hne (hsame fs fs' (hread.trans hread'.symm))
    · intro hpath fs fs' hread
      refine loadFrom_congr rfl hread fun _ => ?_
      rw [beside?_of_extend?_eq_none hpath, beside?_of_extend?_eq_none hpath]
  without_iff hstraight env home := by
    constructor
    · intro hwithout
      by_contra hpath
      obtain ⟨fs, fs', hread, hread', hne⟩ := exists_ne_of_extend? hstraight hpath env home
      exact hne ((hwithout fs hread).trans (hwithout fs' hread').symm)
    · intro hpath fs hread
      exact loadFrom_of_fileLayer_eq_nil
        (fileLayer_of_missing hread (beside?_of_extend?_eq_none hpath fs))

/-- The text of a file with a URL. -/
def besideText : String := "[service]\nurl = \"http://x\"\n"

/-- **A file beside the path goes before the default**, though there is none at the path. -/
theorem not_loadFrom_alone :
    let here : Files := ⟨[], []⟩
    let there : Files := .only ["client.toml.toml"] (Text.Utf8.encode besideText.toList)
    here.read? "client.toml" = none ∧ there.read? "client.toml" = none ∧
      loadFrom .addressable ⟨here, [], "/root"⟩ "client.toml" = .ok (.ok ⟨⟨defaultServiceUrl⟩⟩) ∧
      loadFrom .addressable ⟨there, [], "/root"⟩ "client.toml" = .ok (.ok ⟨⟨"http://x"⟩⟩) := by
  intro here there
  have hparts : Files.parts "client.toml" = ["client.toml"] := Files.parts_name (by decide)
  have hparts' : Files.parts "client.toml.toml" = ["client.toml.toml"] :=
    Files.parts_name (by decide)
  have hpath : Files.extend? "client.toml" fileExtension = some "client.toml.toml" := by
    rw [Files.extend?, hparts]
    rfl
  have hread : here.read? "client.toml" = none := Files.read?_of_contents_eq_nil rfl _
  have hread' : there.read? "client.toml" = none := by
    rw [read?_only, hparts]
    rfl
  have hbeside' : there.beside? "client.toml" = some (Text.Utf8.encode besideText.toList) := by
    rw [Files.beside?, hpath, Option.bind_some, read?_only, hparts']
    rfl
  have hparse : Toml.parse (String.ofList besideText.toList) =
      .ok [("service", .table .header [("url", .text "http://x")])] := by
    cbv
  refine ⟨hread, hread', ?_, ?_⟩
  · rw [loadFrom_of_fileLayer_eq_nil (fileLayer_of_contents_eq_nil rfl _)]
    rfl
  · simp only [loadFrom, fileLayer, findFile_of_missing hread', hbeside', hpath, Option.bind_some,
      Option.map_some, Text.Utf8.decode?_encode, hparse]
    decide +kernel

end ProcTrace.Settings
