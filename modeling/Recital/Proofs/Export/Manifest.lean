/-
# A recording and its manifest

The manifest has the path of the recording with another extension, so it is beside the recording
unless that has the extension of a manifest itself.  Then the two have one path, and as the
manifest is written last, it is what is left.

| the last component | that of the manifest |
| --- | --- |
| `stem.rest`, with no dot in `rest` and more than dots in `stem` | `stem.json` |
| any other | it with `.json` behind it |

Beside each other, they are two files: paths of one folder that end in different names lead to
different places, whatever folders there are and wherever `.` and `..` lead.

A session comes to an export through its stages, and each of them leaves what was exported to the
next one (`exists_of_run` and those behind it); every other way through a stage exports nothing.
-/

import Recital.Proofs.Delivery.Interruption
import Recital.Proofs.Disk.Writing
import Recital.Proofs.Text.Utf8

namespace Recital
namespace Export

variable {path : String} {recording bytes : List UInt8} {disk recorded after : Disk}

/-! ### The path of a manifest -/

/-- Whether a path has the extension of a manifest. -/
def NamedAsManifest (path : String) : Prop :=
  ∃ folder stem : List Char, path.toList = folder ++ (stem ++ ".json".toList) ∧
    Path.EndsIn '/' folder ∧ '/' ∉ stem ∧ ∃ c ∈ stem, c ≠ '.'

theorem toList_manifestPath {folder base : List Char} (split : path.toList = folder ++ base)
    (ends : Path.EndsIn '/' folder) (free : '/' ∉ base) :
    (manifestPath path).toList = folder ++ ((Path.splitBase base).1 ++ ".json".toList) := by
  rw [manifestPath, Path.withoutExtension, split, Path.splitLast_append ends free,
    String.toList_append, String.toList_ofList, List.append_assoc]

/-- **A path is that of its own manifest** only with the extension of one. -/
theorem manifestPath_eq_iff (path : String) : manifestPath path = path ↔ NamedAsManifest path := by
  constructor
  · intro same
    obtain ⟨folder, base, split, ends, free⟩ := Path.exists_split '/' path.toList
    have component : (Path.splitBase base).1 ++ ".json".toList = base := by
      have spelled := toList_manifestPath split ends free
      rw [same, split] at spelled
      exact (List.append_cancel_left spelled).symm
    refine ⟨folder, (Path.splitBase base).1, by rw [component, split], ends, ?_, ?_⟩
    · intro mem
      exact free (component ▸ List.mem_append_left _ mem)
    · rcases Path.splitBase_cases base with ⟨stem, behind, -, named, found⟩ | found
      · rwa [found]
      · rw [found] at component
        exact absurd (congrArg List.length component) (by simp)
  · rintro ⟨folder, stem, split, ends, free, named⟩
    have found : Path.splitBase (stem ++ ".json".toList) = (stem, ".json".toList) :=
      Path.splitBase_append named (by decide)
    have free' : '/' ∉ stem ++ ".json".toList := by
      rw [List.mem_append, not_or]
      exact ⟨free, by decide⟩
    rw [← String.toList_inj, toList_manifestPath split ends free', found, split]

/-- The manifest is in the folder of the recording, under a name. -/
theorem exists_beside (path : String) :
    ∃ folder base base', path = String.ofList (folder ++ base) ∧
      manifestPath path = String.ofList (folder ++ base') ∧ Path.EndsIn '/' folder ∧
      '/' ∉ base ∧ '/' ∉ base' ∧ Disk.IsName (String.ofList base') := by
  obtain ⟨folder, base, split, ends, free⟩ := Path.exists_split '/' path.toList
  refine ⟨folder, base, (Path.splitBase base).1 ++ ".json".toList, ?_, ?_, ends, free, ?_, ?_⟩
  · rw [← split, String.ofList_toList]
  · rw [← toList_manifestPath split ends free, String.ofList_toList]
  · rw [List.mem_append, not_or]
    refine ⟨fun mem => free ?_, by decide⟩
    rcases Path.splitBase_cases base with ⟨stem, behind, rfl, -, found⟩ | found
    · rw [found] at mem
      exact List.mem_append_left _ mem
    · rwa [found] at mem
  · have long : 2 < (String.ofList ((Path.splitBase base).1 ++ ".json".toList)).length := by
      rw [String.length_ofList, List.length_append]
      exact Nat.lt_add_left _ (by decide)
    refine ⟨?_, ?_, ?_⟩ <;> exact fun same => absurd (same ▸ long) (by decide)

/-! ### What an export leaves -/

/-- Whether bytes are those of the manifest of a recording. -/
def IsManifest (clock : String) (mp3 : Mp3) (segments : List Segment) (settings : Value)
    (bytes : List UInt8) : Prop :=
  ∃ ms document, mp3.audio.milliseconds = .ok ms ∧
    manifest clock ms mp3.path segments settings = .ok document ∧
    bytes = (Json.written document).toUTF8.toList

theorem exists_bracketed (opening closing : String) (depth : Nat) (lines : List String) :
    ∃ rest, Json.bracketed opening closing depth lines = opening ++ rest := by
  rw [Json.bracketed]
  split_ifs
  · exact ⟨closing, rfl⟩
  · exact ⟨"\n" ++ ",\n".intercalate (lines.map fun line => Json.indent (depth + 1) ++ line) ++
      "\n" ++ Json.indent depth ++ closing, by simp only [String.append_assoc]⟩

/-- A manifest starts with a brace. -/
theorem IsManifest.starts {clock : String} {mp3 : Mp3} {segments : List Segment}
    {settings : Value} (h : IsManifest clock mp3 segments settings bytes) :
    ∃ rest, bytes = 0x7B :: rest := by
  obtain ⟨ms, document, -, described, rfl⟩ := h
  obtain ⟨lines, -, made⟩ := Except.bind_eq_ok.1 described
  cases made
  obtain ⟨rest, layout⟩ := exists_bracketed "\x7b" "\x7d" 0 _
  rw [Json.written, Json.writtenAt, layout, Text.Utf8.toList_toUTF8, String.toList_append,
    List.flatMap_append]
  exact ⟨_, rfl⟩

/-- Whether a recording and its manifest are two files, each with its bytes. -/
structure TwoFiles (disk : Disk) (path : String) (recording bytes : List UInt8) : Prop where
  recorded : disk.read path = .ok recording
  described : disk.read (manifestPath path) = .ok bytes
  apart : disk.Apart path (manifestPath path)

/-- What is left of a recording and its manifest: both of them, exactly if the path of the
recording has not the extension of a manifest, and if it has, the manifest alone. -/
structure Leaves (disk : Disk) (path : String) (recording bytes : List UInt8) : Prop where
  two_iff : TwoFiles disk path recording bytes ↔ ¬ NamedAsManifest path
  last : NamedAsManifest path → disk.read path = .ok bytes

/-- What is written in turn under a path and that of its manifest is left as described. -/
theorem leaves_of_writes (kept : disk.write path recording = .ok recorded)
    (described : recorded.write (manifestPath path) bytes = .ok after) :
    Leaves after path recording bytes := by
  have last : after.read (manifestPath path) = .ok bytes := Disk.read_write described
  constructor
  · constructor
    · intro two named
      rw [← manifestPath_eq_iff] at named
      obtain ⟨-, place, found⟩ := Disk.read_eq_ok_iff.1 two.recorded
      exact two.apart _ _ _ _ found (named.symm ▸ found) rfl
    · intro unnamed
      obtain ⟨folder, base, base', split, split', ends, free, free', isName⟩ := exists_beside path
      have ne : base ≠ base' := by
        rintro rfl
        exact unnamed ((manifestPath_eq_iff path).1 (split'.trans split.symm))
      have apart (d : Disk) : d.Apart path (manifestPath path) := by
        rw [split', split]
        exact Disk.apart_of_names ends free free' isName ne
      exact ⟨Disk.read_write_of_apart (Disk.read_write kept) described (apart _), last, apart _⟩
  · intro named
    rwa [(manifestPath_eq_iff path).2 named] at last

/-- An export that ends well has written the recording and then its manifest. -/
theorem exists_of_runWith {encode : Mp3 → Option (List UInt8)} {clock title : String} {a : Audio}
    {segments : List Segment} {settings : Value}
    (ok : (runWith encode disk clock a path segments settings title).result = .ok after) :
    let mp3 : Mp3 := { path := path, title := title, audio := a }
    (runWith encode disk clock a path segments settings title).written = [mp3] ∧
      ∃ made recorded bytes, record encode made mp3 = .ok recorded ∧
        IsManifest clock mp3 segments settings bytes ∧
        recorded.write (manifestPath path) bytes = .ok after := by
  intro mp3
  unfold runWith at ok ⊢
  dsimp only at ok ⊢
  -- each stage has failed, or what it gave goes into the next one
  split at ok
  · cases ok
  split at ok
  · cases ok
  rename_i ms length
  split at ok
  · cases ok
  rename_i recorded kept
  split at ok
  · cases ok
  rename_i document described
  split at ok
  · cases ok
  rename_i written
  cases ok
  exact ⟨rfl, _, recorded, _, kept, ⟨ms, document, length, described, rfl⟩, written⟩

/-- An export that ends well leaves the recording and its manifest as described. -/
theorem left_of_runWith {encode : Mp3 → Option (List UInt8)} {clock title : String} {a : Audio}
    {segments : List Segment} {settings : Value}
    (encoded : encode { path := path, title := title, audio := a } = some recording)
    (ok : (runWith encode disk clock a path segments settings title).result = .ok after) :
    ∃ bytes, IsManifest clock { path := path, title := title, audio := a } segments settings
      bytes ∧ Leaves after path recording bytes := by
  obtain ⟨-, made, recorded, bytes, kept, described, last⟩ := exists_of_runWith ok
  rw [record, encoded] at kept
  exact ⟨bytes, described, leaves_of_writes kept last⟩

end Export

namespace Session

variable {w : World} {words : List String} {p : Preamble} {r : CommandLine.Request}
  {segments : List Segment} {mp3 : Mp3} {code : Nat}

/-- A session that exports something goes on with a command line and a catalog. -/
theorem exists_of_run (mem : mp3 ∈ (run w words).exported) :
    ∃ early catalog notices, CommandLine.readEarly words = .ok early ∧
      loadCatalog w early.onlineVoices = (.ok catalog, notices) ∧
      run w words = withCatalog w early.verbose notices catalog words := by
  rw [run] at mem ⊢
  split at mem
  · cases mem
  rename_i early glance
  dsimp only at mem ⊢
  split at mem
  · cases mem
  rename_i catalog loaded
  exact ⟨early, catalog, _, glance, Prod.ext loaded rfl, rfl⟩

/-- A request that is served and exports something has its segments spoken. -/
theorem exists_of_serve (mem : mp3 ∈ (serve w p r).exported) :
    ∃ segments p', (compile (.ofSeed (r.seed.getD w.entropy) w.room) r.instructions).result =
        .ok segments ∧ r.ssml = false ∧ serve w p r = speak w p' r segments := by
  unfold serve at mem ⊢
  dsimp only at mem ⊢
  split at mem
  · split_ifs at mem <;> cases mem
  rename_i segments compiled
  split_ifs at mem ⊢ with printed
  · unfold print at mem
    dsimp only at mem
    split at mem <;> cases mem
  exact ⟨segments, _, compiled, Bool.eq_false_iff.2 printed, rfl⟩

/-- What a session that speaks exports goes to the path that was asked for. -/
theorem exists_of_speak (mem : mp3 ∈ (speak w p r segments).exported) :
    w.canEncode = true ∧ ∃ path done base, r.output = some path ∧ base.exported = [] ∧
      speak w p r segments = exportParts w r path segments done base := by
  unfold speak at mem ⊢
  split_ifs at mem ⊢ with without
  · cases mem
  refine ⟨by simpa using without, ?_⟩
  dsimp only at mem ⊢
  split at mem
  split at mem
  · rename_i asked _
    exact ⟨_, _, _, (Option.filter_eq_some_iff.1 asked).1, rfl, rfl⟩
  · cases mem
  · cases mem
  · cases mem

/-- A request for no path exports nothing. -/
theorem not_mem_exported_of_output (none : r.output = none) : mp3 ∉ (serve w p r).exported := by
  intro mem
  obtain ⟨segments, p', -, -, spoken⟩ := exists_of_serve mem
  rw [spoken] at mem
  obtain ⟨-, path, -, -, asked, -⟩ := exists_of_speak mem
  rw [none] at asked
  cases asked

/-- Neither a list of voices nor the help exports anything. -/
theorem exists_of_follow {catalog : Catalog} {goOn : Unit → Report}
    (mem : mp3 ∈ (follow w p catalog r goOn).exported) :
    r.listVoices = false ∧ r.instructions ≠ [] ∧ follow w p catalog r goOn = goOn () := by
  unfold follow at mem ⊢
  split_ifs at mem ⊢ with listing empty
  · cases mem
  · cases mem
  exact ⟨Bool.eq_false_iff.2 listing, fun none => empty (List.isEmpty_iff.2 none), rfl⟩

/-- A session with a catalog that exports something serves a request that asks for no list of
voices and holds an instruction. -/
theorem exists_of_withCatalog {verbose : Bool} {notices : List Notice} {catalog : Catalog}
    (mem : mp3 ∈ (withCatalog w verbose notices catalog words).exported) :
    ∃ r p, (CommandLine.read (surroundings w catalog) words).1 = .ok r ∧
      r.listVoices = false ∧ r.instructions ≠ [] ∧
      withCatalog w verbose notices catalog words = serve w p r := by
  unfold withCatalog at mem ⊢
  dsimp only at mem ⊢
  split at mem
  -- whatever else the reading comes to, the session is left or fails
  iterate 5 cases mem
  · -- a value that was lost leaves no path to export to
    obtain ⟨-, -, gone⟩ := exists_of_follow mem
    rw [gone] at mem
    split_ifs at mem
    · cases mem
    · exact absurd mem (not_mem_exported_of_output rfl)
  rename_i r reading
  obtain ⟨noListing, nonempty, gone⟩ := exists_of_follow mem
  exact ⟨r, _, reading, noListing, nonempty, gone⟩

/-- An export that a session reports as done went to the path, and its disk is left. -/
theorem exists_of_exportParts {path : String} {done : Performance} {base : Report}
    (bare : base.exported = [])
    (mem : mp3 ∈ (exportParts w r path segments done base).exported)
    (ok : (exportParts w r path segments done base).ending = .ok code) :
    ∃ a title after, (exportParts w r path segments done base).disk = after ∧
      (Export.runWith w.encode w.disk w.clock a path segments (settings r) title).result =
        .ok after ∧
      mp3 ∈ (Export.runWith w.encode w.disk w.clock a path segments (settings r) title).written ∧
      (exportParts w r path segments done base).output = CommandLine.printed
        ["Done: " ++ path, "Manifest: " ++ Export.manifestPath path] := by
  cases combined : done.combined with
  | error fault =>
    simp only [exportParts, combined, bare] at mem
    cases mem
  | ok whole =>
    refine ⟨whole, Path.withoutExtension (Path.baseName path), ?_⟩
    cases written : (Export.runWith w.encode w.disk w.clock whole path segments (settings r)
        (Path.withoutExtension (Path.baseName path))).result with
    | error fault =>
      simp only [exportParts, combined, written] at ok
      cases ok
    | ok after =>
      simp only [exportParts, combined, written] at mem ⊢
      exact ⟨after, rfl, rfl, mem, trivial⟩

/-- What a session has exported is left as described, if it ends well. -/
theorem left_of_run {recording : List UInt8} (encoded : w.encode mp3 = some recording)
    (mem : mp3 ∈ (run w words).exported) (ok : (run w words).ending = .ok code) :
    ∃ r segments bytes, Speaks w words r segments ∧ r.output = some mp3.path ∧
      Export.IsManifest w.clock mp3 segments (settings r) bytes ∧
      Export.Leaves (run w words).disk mp3.path recording bytes ∧
      (run w words).output = CommandLine.printed
        ["Done: " ++ mp3.path, "Manifest: " ++ Export.manifestPath mp3.path] := by
  obtain ⟨early, catalog, notices, glance, loaded, gone⟩ := exists_of_run mem
  rw [gone] at mem ok ⊢
  obtain ⟨r, p, reading, noListing, nonempty, served⟩ := exists_of_withCatalog mem
  rw [served] at mem ok ⊢
  obtain ⟨segments, p', compiled, aloud, spoken⟩ := exists_of_serve mem
  rw [spoken] at mem ok ⊢
  obtain ⟨canEncode, path, done, base, asked, bare, exported⟩ := exists_of_speak mem
  rw [exported] at mem ok ⊢
  obtain ⟨a, title, after, rfl, result, mem, printed⟩ := exists_of_exportParts bare mem ok
  have speaks : Speaks w words r segments :=
    ⟨⟨early, catalog, notices, glance, loaded, reading⟩, noListing, nonempty, compiled, aloud,
      canEncode⟩
  obtain rfl : mp3 = _ := List.mem_singleton.1 ((Export.exists_of_runWith result).1 ▸ mem)
  obtain ⟨bytes, described, left⟩ := Export.left_of_runWith encoded result
  exact ⟨r, segments, bytes, speaks, asked, described, left, printed⟩

/-- **A recording and its manifest.**  A path is that of its own manifest exactly if it has the
extension of one.  An export to it that ends well leaves two files, each with its bytes, exactly
if this is not so, and the manifest in place of the recording otherwise.  A session that exports
a recording to it and ends well was asked for that path, names it and that of the manifest, and
leaves the same. -/
theorem recording_left_iff (path : String) :
    (Export.manifestPath path = path ↔ Export.NamedAsManifest path) ∧
    (∀ (encode : Mp3 → Option (List UInt8)) (disk : Disk) (clock : String) (a : Audio)
      (segments : List Segment) (settings : Value) (title : String) (recording : List UInt8)
      (after : Disk),
      let mp3 : Mp3 := { path := path, title := title, audio := a }
      encode mp3 = some recording →
      (Export.runWith encode disk clock a path segments settings title).result = .ok after →
      ∃ bytes, Export.IsManifest clock mp3 segments settings bytes ∧
        Export.Leaves after path recording bytes) ∧
    ∀ (w : World) (words : List String) (mp3 : Mp3) (recording : List UInt8) (code : Nat),
      mp3.path = path → w.encode mp3 = some recording → mp3 ∈ (run w words).exported →
      (run w words).ending = .ok code →
      ∃ r segments bytes, Speaks w words r segments ∧ r.output = some path ∧
        Export.IsManifest w.clock mp3 segments (settings r) bytes ∧
        Export.Leaves (run w words).disk path recording bytes ∧
        (run w words).output = CommandLine.printed
          ["Done: " ++ path, "Manifest: " ++ Export.manifestPath path] := by
  refine ⟨Export.manifestPath_eq_iff path, ?_, ?_⟩
  · intro encode disk clock a segments settings title recording after mp3 encoded ok
    exact Export.left_of_runWith encoded ok
  · rintro w words mp3 recording code rfl encoded mem ok
    exact left_of_run encoded mem ok

/-- An engine that records one byte for every text, and it is heard as one sample. -/
def terse : Engine where
  attempt _ _ := { written := some [5] }
  decode bytes := .ok (.ofBytes bytes)

/-- What is recorded to `a.mp3` is there in the end, with its manifest beside it. -/
theorem recording_left_beside :
    let w : World := { engine := terse, encode := fun _ => some [0x49, 0x44, 0x33], clock := "" }
    let a : Audio := { samples := [5] }
    let mp3 : Mp3 := { path := "a.mp3", title := "a", audio := a }
    let report := run w ["a", "-o", "a.mp3"]
    (∃ after bytes, (Export.runWith w.encode {} "" a "a.mp3" [] .null "").result = .ok after ∧
      Export.TwoFiles after "a.mp3" [0x49, 0x44, 0x33] bytes) ∧
    mp3 ∈ report.exported ∧ report.ending = .ok 0 ∧
      ∃ bytes, Export.TwoFiles report.disk "a.mp3" [0x49, 0x44, 0x33] bytes := by
  intro w a mp3 report
  have unnamed : ¬ Export.NamedAsManifest "a.mp3" := by
    rw [← (recording_left_iff "a.mp3").1]
    decide
  have result : ((Export.runWith w.encode {} "" a "a.mp3" [] .null "").result.toOption).isSome =
      true := by decide +kernel
  have run : mp3 ∈ report.exported ∧ report.ending.toOption = some 0 := by decide +kernel
  obtain ⟨mem, ending⟩ := run
  rw [Except.toOption_eq_some] at ending
  obtain ⟨after, result⟩ := Option.isSome_iff_exists.1 result
  rw [Except.toOption_eq_some] at result
  obtain ⟨bytes, -, left⟩ := (recording_left_iff "a.mp3").2.1 _ _ _ _ _ _ _ _ after rfl result
  obtain ⟨-, -, bytes', -, -, -, left', -⟩ :=
    (recording_left_iff "a.mp3").2.2 w _ mp3 _ _ rfl rfl mem ending
  exact ⟨⟨after, bytes, result, left.two_iff.2 unnamed⟩, mem, ending,
    bytes', left'.two_iff.2 unnamed⟩

/-- What is recorded to `a.json` is lost, though both files are named in the end. -/
theorem recording_lost :
    let w : World := { engine := terse, encode := fun _ => some [0x49, 0x44, 0x33], clock := "" }
    let report := run w ["a", "-o", "a.json"]
    Export.manifestPath "a.json" = "a.json" ∧ report.ending = .ok 0 ∧
      report.exported.map Mp3.path = ["a.json"] ∧
      report.output = CommandLine.printed ["Done: a.json", "Manifest: a.json"] ∧
      report.disk.read "a.json" ≠ .ok [0x49, 0x44, 0x33] := by
  intro w report
  have same : Export.manifestPath "a.json" = "a.json" := by decide
  have run : report.ending.toOption = some 0 ∧ report.exported.map Mp3.path = ["a.json"] ∧
      report.output = CommandLine.printed ["Done: a.json", "Manifest: a.json"] := by
    decide +kernel
  obtain ⟨ending, paths, printed⟩ := run
  rw [Except.toOption_eq_some] at ending
  refine ⟨same, ending, paths, printed, ?_⟩
  obtain ⟨mp3, mem, path⟩ := List.mem_map.1 (paths ▸ List.mem_singleton_self "a.json")
  obtain ⟨r, segments, bytes, -, -, described, left, -⟩ := left_of_run rfl mem ending
  obtain ⟨rest, rfl⟩ := described.starts
  rw [path] at left
  rw [left.last ((Export.manifestPath_eq_iff _).1 same)]
  intro kept
  cases kept

end Session
end Recital
