/-
# What comes of a location

A location gives a text, or is reported as one that cannot be read or downloaded, with the
location in the message.  Or something else is wrong, with the location or with what is behind
it, which is no report of the system (`fetch_escapes_iff`):

| what is wrong | where |
| --- | --- |
| the host part | in any location, before anything is looked up |
| a null character | in the path of a file |
| bytes that are no UTF-8 | in a file |
| a null character in the name of the encoding | in a page |
| an encoding that is unknown, is none of text, or fails | in a page that is not empty |
| what there is at all | in an answer that is no page |

One report lacks the location: where the system fails in the middle of an answer, its own words
are kept, and the location stands in them by chance only (`CutShort`).

On the command line a report of the system becomes a complaint about the option, and all the
rest a failure.  What the web answers and what encodings come to is given, here as everywhere.
-/

import Recital.Proofs.CommandLine.Halting
import Recital.Proofs.Text.Utf8

namespace Recital
namespace Source

/-- Whether the encoding of a page keeps it from being a text. -/
inductive Undecodable (web : Web) (name : String) (body : List UInt8) : Prop where
  | null (null : Char.ofNat 0 ∈ name.toList)
  | unknown (full : body ≠ []) (unknown : web.codec? name = none)
  | binary (full : body ≠ []) (noText : web.codec? name = some .binary)
  | fails {decode : List UInt8 → Except String String} {message : String} (full : body ≠ [])
      (known : web.codec? name = some (.text decode)) (failed : decode body = .error message)

/-- Whether something is wrong with a location, or with what is behind it, that is no report of
the system. -/
inductive Escapes (disk : Disk) (web : Web) (location : String) : Prop where
  | host {fault : HostFault} (wrong : isAddress location = .error fault)
  | nullInPath (isFile : isAddress location = .ok false)
      (null : Char.ofNat 0 ∈ location.toList)
  | noText {place : List String} {bytes : List UInt8} (isFile : isAddress location = .ok false)
      (there : disk.lookUp location = .ok (place, .file bytes))
      (noText : ¬ bytes.toByteArray.IsValidUTF8)
  | undecodable {body : List UInt8} {charset : Option String}
      (isPage : isAddress location = .ok true)
      (there : web.reply (requested location) = .page body charset)
      (undecodable : Undecodable web (encodingOf charset) body)
  | broken {message : String} (isPage : isAddress location = .ok true)
      (there : web.reply (requested location) = .broken message)

/-- Whether the answer to an address is cut short with words that do not hold the location. -/
def CutShort (web : Web) (location : String) : Prop :=
  isAddress location = .ok true ∧ ∃ message,
    web.reply (requested location) = .interrupted message ∧
      ¬ location.toList <:+: message.toList

variable {disk : Disk} {web : Web} {location : String} {fault : Fault}

theorem toList_message_unreadable (place reason : String) :
    (Fault.message (.unreadable place reason)).toList =
      "Could not read ".toList ++ (place.toList ++ (": ".toList ++ reason.toList)) := by
  unfold Fault.message
  dsimp only
  simp only [toString, String.toList_append, List.append_assoc]

theorem toList_message_unreachable (place reason : String) :
    (Fault.message (.unreachable place reason)).toList =
      "Could not download ".toList ++ (place.toList ++ (": ".toList ++ reason.toList)) := by
  unfold Fault.message
  dsimp only
  simp only [toString, String.toList_append, List.append_assoc]

theorem infix_message_unreadable (location reason : String) :
    location.toList <:+: (Fault.message (.unreadable location reason)).toList := by
  rw [toList_message_unreadable]
  exact ⟨_, _, List.append_assoc ..⟩

theorem infix_message_unreachable (location reason : String) :
    location.toList <:+: (Fault.message (.unreachable location reason)).toList := by
  rw [toList_message_unreachable]
  exact ⟨_, _, List.append_assoc ..⟩

/-! ### Files -/

theorem readFile_of_null (null : Char.ofNat 0 ∈ location.toList) :
    readFile disk location = .error (.badPath .embeddedNull) := by
  rw [readFile, Disk.read, if_pos (List.contains_iff_mem.2 null)]

theorem readFile_of_file {place : List String} {bytes : List UInt8}
    (noNull : Char.ofNat 0 ∉ location.toList)
    (there : disk.lookUp location = .ok (place, .file bytes)) :
    readFile disk location = ((Text.Utf8.decode bytes).mapError .undecodable).map
      fun cs => String.ofList (Text.unifyNewlines cs) := by
  rw [readFile, Disk.read, if_neg (mt List.contains_iff_mem.1 noNull), there]
  dsimp only
  cases Text.Utf8.decode bytes with
  | ok cs => rfl
  | error fault => rfl

theorem readFile_of_no_file (noNull : Char.ofNat 0 ∉ location.toList)
    (nowhere : ∀ place bytes, disk.lookUp location ≠ .ok (place, .file bytes)) :
    ∃ reason, readFile disk location = .error (.unreadable location reason) := by
  rw [readFile, Disk.read, if_neg (mt List.contains_iff_mem.1 noNull)]
  rcases found : disk.lookUp location with refusal | ⟨place, bytes | _ | _⟩
  · exact ⟨_, rfl⟩
  · exact absurd found (nowhere place bytes)
  · exact ⟨_, rfl⟩
  · exact ⟨_, rfl⟩

/-- What the system says of a file is said with its path. -/
theorem infix_of_readFile (h : readFile disk location = .error fault)
    (reported : fault.isOfSystem = true) : location.toList <:+: fault.message.toList := by
  unfold readFile at h
  split at h
  · cases h
    exact infix_message_unreadable location _
  · cases h
    cases reported
  · split at h
    · cases h
      cases reported
    · cases h

/-- The faults of a file that are no reports of the system. -/
theorem readFile_escapes_iff :
    (∃ fault, readFile disk location = .error fault ∧ fault.isOfSystem = false) ↔
      Char.ofNat 0 ∈ location.toList ∨ ∃ place bytes,
        disk.lookUp location = .ok (place, .file bytes) ∧ ¬ bytes.toByteArray.IsValidUTF8 := by
  by_cases null : Char.ofNat 0 ∈ location.toList
  · exact iff_of_true ⟨_, readFile_of_null null, rfl⟩ (.inl null)
  rw [or_iff_right null]
  by_cases there : ∃ place bytes, disk.lookUp location = .ok (place, .file bytes)
  · obtain ⟨place, bytes, there⟩ := there
    rw [readFile_of_file null there]
    constructor
    · rintro ⟨fault, failed, -⟩
      refine ⟨place, bytes, there, fun valid => ?_⟩
      obtain ⟨cs, decoded⟩ := Text.Utf8.exists_decode_eq_ok_iff.2 valid
      rw [decoded] at failed
      cases failed
    · rintro ⟨place', bytes', same, invalid⟩
      obtain ⟨-, ⟨⟩⟩ := Prod.mk.inj (Except.ok.inj (there.symm.trans same))
      cases decoded : Text.Utf8.decode bytes with
      | ok cs => exact absurd (Text.Utf8.exists_decode_eq_ok_iff.1 ⟨cs, decoded⟩) invalid
      | error fault => exact ⟨_, rfl, rfl⟩
  · push Not at there
    obtain ⟨reason, refused⟩ := readFile_of_no_file null there
    refine iff_of_false ?_ ?_
    · rintro ⟨fault, failed, other⟩
      rw [refused] at failed
      cases failed
      cases other
    · rintro ⟨place, bytes, found, -⟩
      exact there place bytes found

/-! ### Pages -/

section Pages

variable {name : String} {body : List UInt8}

/-- What is wrong with a page is no report of the system. -/
theorem isOfSystem_of_decodeIn (h : decodeIn web name body = .error fault) :
    fault.isOfSystem = false := by
  rw [decodeIn] at h
  split at h
  · cases h
    rfl
  split at h
  · cases h
  split at h
  · next decode _ =>
    cases decoded : decode body with
    | ok text =>
      rw [decoded] at h
      cases h
    | error message =>
      rw [decoded] at h
      cases h
      rfl
  · cases h
    rfl
  · cases h
    rfl

/-- A page is a text, unless its encoding keeps it from being one. -/
theorem exists_decodeIn_eq_error_iff :
    (∃ fault, decodeIn web name body = .error fault) ↔ Undecodable web name body := by
  rw [decodeIn]
  by_cases null : Char.ofNat 0 ∈ name.toList
  · rw [if_pos (List.contains_iff_mem.2 null)]
    exact iff_of_true ⟨_, rfl⟩ (.null null)
  rw [if_neg (mt List.contains_iff_mem.1 null)]
  cases body with
  | nil =>
    refine iff_of_false (fun ⟨_, failed⟩ => nomatch failed) ?_
    rintro (null' | ⟨full, -⟩ | ⟨full, -⟩ | ⟨full, -, -⟩)
    · exact null null'
    · exact full rfl
    · exact full rfl
    · exact full rfl
  | cons b body =>
    have full : b :: body ≠ [] := List.cons_ne_nil b body
    rw [if_neg (by simp)]
    cases known : web.codec? name with
    | none => exact iff_of_true ⟨_, rfl⟩ (.unknown full known)
    | some codec =>
      cases codec with
      | binary => exact iff_of_true ⟨_, rfl⟩ (.binary full known)
      | text decode =>
        dsimp only
        cases decoded : decode (b :: body) with
        | error message => exact iff_of_true ⟨_, rfl⟩ (.fails full known decoded)
        | ok text =>
          refine iff_of_false (fun ⟨_, failed⟩ => nomatch failed) ?_
          rintro (null' | ⟨-, unknown⟩ | ⟨-, binary⟩ | ⟨-, same, failed⟩)
          · exact null null'
          · cases known.symm.trans unknown
          · cases known.symm.trans binary
          · cases known.symm.trans same
            cases decoded.symm.trans failed

end Pages

/-- What the system says of an address is said with it, or the answer was cut short. -/
theorem infix_or_interrupted_of_download (h : download web location = .error fault)
    (reported : fault.isOfSystem = true) :
    location.toList <:+: fault.message.toList ∨
      web.reply (requested location) = .interrupted fault.message := by
  unfold download at h
  split at h
  · rw [isOfSystem_of_decodeIn h] at reported
    cases reported
  · cases h
    exact .inl (infix_message_unreachable location _)
  · next there =>
    cases h
    exact .inr there
  · cases h
    cases reported

/-- The faults of an address that are no reports of the system. -/
theorem download_escapes_iff :
    (∃ fault, download web location = .error fault ∧ fault.isOfSystem = false) ↔
      (∃ body charset, web.reply (requested location) = .page body charset ∧
        Undecodable web (encodingOf charset) body) ∨
      ∃ message, web.reply (requested location) = .broken message := by
  rw [download]
  cases web.reply (requested location) with
  | page body charset =>
    constructor
    · rintro ⟨fault, failed, -⟩
      exact .inl ⟨body, charset, rfl, exists_decodeIn_eq_error_iff.1 ⟨fault, failed⟩⟩
    · rintro (⟨_, _, ⟨⟩, undecodable⟩ | ⟨_, ⟨⟩⟩)
      obtain ⟨fault, failed⟩ := exists_decodeIn_eq_error_iff.2 undecodable
      exact ⟨fault, failed, isOfSystem_of_decodeIn failed⟩
  | broken message => exact iff_of_true ⟨_, rfl, rfl⟩ (.inr ⟨message, rfl⟩)
  | _ =>
    refine iff_of_false ?_ ?_
    · rintro ⟨fault, ⟨⟩, ⟨⟩⟩
    · rintro (⟨_, _, ⟨⟩, -⟩ | ⟨_, ⟨⟩⟩)

/-! ### Locations -/

theorem fetch_eq_readFile (isFile : isAddress location = .ok false) :
    (fetch disk web location).1 = readFile disk location := by
  rw [fetch, isFile]

theorem fetch_eq_download (isPage : isAddress location = .ok true) :
    (fetch disk web location).1 = download web location := by
  rw [fetch, isPage]

/-- **Nothing is wrong with a location but what the system says of it, exactly as long as nothing
escapes.** -/
theorem fetch_escapes_iff :
    (∃ fault, (fetch disk web location).1 = .error fault ∧ fault.isOfSystem = false) ↔
      Escapes disk web location := by
  rcases kind : isAddress location with fault | isPage | isPage
  · have failed : (fetch disk web location).1 = .error (.badHost fault) := by rw [fetch, kind]
    exact iff_of_true ⟨_, failed, rfl⟩ (.host kind)
  · rw [fetch_eq_readFile kind, readFile_escapes_iff]
    constructor
    · rintro (null | ⟨place, bytes, there, invalid⟩)
      · exact .nullInPath kind null
      · exact .noText kind there invalid
    · rintro (wrong | ⟨-, null⟩ | ⟨-, there, invalid⟩ | ⟨isPage, -, -⟩ | ⟨isPage, -⟩)
      · cases kind.symm.trans wrong
      · exact .inl null
      · exact .inr ⟨_, _, there, invalid⟩
      · cases kind.symm.trans isPage
      · cases kind.symm.trans isPage
  · rw [fetch_eq_download kind, download_escapes_iff]
    constructor
    · rintro (⟨body, charset, there, undecodable⟩ | ⟨message, there⟩)
      · exact .undecodable kind there undecodable
      · exact .broken kind there
    · rintro (wrong | ⟨isFile, -⟩ | ⟨isFile, -, -⟩ | ⟨-, there, undecodable⟩ | ⟨-, there⟩)
      · cases kind.symm.trans wrong
      · cases kind.symm.trans isFile
      · cases kind.symm.trans isFile
      · exact .inl ⟨_, _, there, undecodable⟩
      · exact .inr ⟨_, there⟩

theorem escapes_iff_of_error (failed : (fetch disk web location).1 = .error fault) :
    Escapes disk web location ↔ fault.isOfSystem = false := by
  rw [← fetch_escapes_iff]
  constructor
  · rintro ⟨other, same, escapes⟩
    cases failed.symm.trans same
    exact escapes
  · exact fun escapes => ⟨fault, failed, escapes⟩

/-- What the system says of a location holds it exactly as long as no answer is cut short. -/
theorem infix_message_iff (failed : (fetch disk web location).1 = .error fault)
    (reported : fault.isOfSystem = true) :
    location.toList <:+: fault.message.toList ↔ ¬ CutShort web location := by
  rcases kind : isAddress location with host | isPage | isPage
  · rw [fetch, kind] at failed
    cases failed
    cases reported
  · rw [fetch_eq_readFile kind] at failed
    refine iff_of_true (infix_of_readFile failed reported) ?_
    rintro ⟨isPage, -⟩
    cases kind.symm.trans isPage
  · rw [fetch_eq_download kind] at failed
    constructor
    · rintro inside ⟨-, message, there, apart⟩
      rw [download, there] at failed
      cases failed
      exact apart inside
    · intro whole
      by_contra apart
      have there := (infix_or_interrupted_of_download failed reported).resolve_left apart
      exact whole ⟨kind, _, there, apart⟩

/-- A location gives a text or a report in which it stands, exactly as long as nothing escapes and
no answer is cut short. -/
theorem text_or_report_iff :
    ((∃ text, (fetch disk web location).1 = .ok text) ∨
      ∃ fault, (fetch disk web location).1 = .error fault ∧ fault.isOfSystem = true ∧
        location.toList <:+: fault.message.toList) ↔
      ¬ Escapes disk web location ∧ ¬ CutShort web location := by
  cases fetched : (fetch disk web location).1 with
  | ok text =>
    refine iff_of_true (.inl ⟨text, rfl⟩) ⟨fun escapes => ?_, ?_⟩
    · obtain ⟨fault, failed, -⟩ := fetch_escapes_iff.2 escapes
      cases fetched.symm.trans failed
    · rintro ⟨isPage, message, there, -⟩
      rw [fetch_eq_download isPage, download, there] at fetched
      cases fetched
  | error fault =>
    rw [escapes_iff_of_error fetched]
    cases reported : fault.isOfSystem with
    | false =>
      refine iff_of_false ?_ fun kept => kept.1 rfl
      rintro (⟨text, ⟨⟩⟩ | ⟨other, ⟨⟩, system, -⟩)
      cases reported.symm.trans system
    | true =>
      rw [← infix_message_iff fetched reported]
      constructor
      · rintro (⟨text, ⟨⟩⟩ | ⟨other, ⟨⟩, -, inside⟩)
        exact ⟨Bool.noConfusion, inside⟩
      · rintro ⟨-, inside⟩
        exact .inr ⟨fault, rfl, reported, inside⟩

end Source

/-! ### Locations on the command line -/

namespace CommandLine

variable {s : Surroundings} {f : Flag} {location : String} {fault : Source.Fault}

/-- What a location that gives no text means for the option that it is the value of. -/
def unread (f : Flag) (fault : Source.Fault) : Halt :=
  if fault.isOfSystem then .complaint (.unsuitable f (.source fault))
  else .failure (.source fault)

theorem run_fetch_of_error (failed : (Source.fetch s.disk s.web location).1 = .error fault)
    (f : Flag) (p : Progress) : (fetch s f location).run p = (.error (unread f fault),
      { p with addresses := p.addresses ++ (Source.fetch s.disk s.web location).2 }) := by
  rw [fetch]
  generalize Source.fetch s.disk s.web location = fetched at failed ⊢
  obtain ⟨result, addresses⟩ := fetched
  obtain rfl : result = .error fault := failed
  cases fault <;> rfl

theorem run_fetch_of_ok {text : String}
    (read : (Source.fetch s.disk s.web location).1 = .ok text) (f : Flag) (p : Progress) :
    (fetch s f location).run p = (.ok text,
      { p with addresses := p.addresses ++ (Source.fetch s.disk s.web location).2 }) := by
  rw [fetch]
  generalize Source.fetch s.disk s.web location = fetched at read ⊢
  obtain ⟨result, addresses⟩ := fetched
  obtain rfl : result = .ok text := read
  rfl

/-- A location that gives no text ends the work of the two options that read one. -/
theorem halts_of_unread (reads : f = .textFile ∨ f = .template)
    (failed : (Source.fetch s.disk s.web location).1 = .error fault) :
    f.Halts s location (unread f fault) (Source.fetch s.disk s.web location).2 := by
  intro p
  rcases reads with rfl | rfl
  · exact ExceptT.run_bind_of_error (run_fetch_of_error failed .textFile p)
  · exact ExceptT.run_bind_of_error (run_fetch_of_error failed .template p)

theorem takesValue_of_reads (reads : f = .textFile ∨ f = .template) : f.takesValue = true := by
  rcases reads with rfl | rfl <;> rfl

end CommandLine

namespace Session

open CommandLine

/-- **Locations that are not read.**  A location gives a text, or a report of the system in which
it stands, exactly as long as nothing escapes and no answer is cut short.  On the command line
every report of the system is complained about, with exit code 2, wherever the location stands as
the value of an option that reads it; what escapes ends the session with a failure. -/
theorem location_reported_iff (w : World) (location : String) :
    ((∃ text, (Source.fetch w.disk w.web location).1 = .ok text) ∨
      (∃ fault, (Source.fetch w.disk w.web location).1 = .error fault ∧
        fault.isOfSystem = true ∧ location.toList <:+: fault.message.toList) ↔
      ¬ Source.Escapes w.disk w.web location ∧ ¬ Source.CutShort w.web location) ∧
    ∀ fault, (Source.fetch w.disk w.web location).1 = .error fault →
      ∀ (f : Flag) (word : String) (given : List String), f = .textFile ∨ f = .template →
        word ∈ f.spellings → location ≠ "--" →
        given = [word, location] ∨ given = [word ++ "=" ++ location] →
      ∀ (items : List Item) (back : List String) (early : Request) (catalog : Catalog)
        (notices : List Notice),
        readEarly (items.flatMap Item.words ++ (given ++ back)) = .ok early →
        loadCatalog w early.onlineVoices = (.ok catalog, notices) →
        let report := run w (items.flatMap Item.words ++ (given ++ back))
        (¬ Source.Escapes w.disk w.web location → report.ending = .ok 2 ∧
          report.errors = noticeText early.verbose notices ++
            complaintText usageLines (.unsuitable f (.source fault))) ∧
        (Source.Escapes w.disk w.web location →
          report.ending = .error (.reading (.source fault))) := by
  refine ⟨Source.text_or_report_iff, ?_⟩
  intro fault failed f word given reads spells kept form items back early catalog notices glance
    loaded
  have halts : f.Halts (surroundings w catalog) location (unread f fault)
      (Source.fetch w.disk w.web location).2 := halts_of_unread reads failed
  obtain ⟨request, ended⟩ :=
    read_halted items spells (takesValue_of_reads reads) kept form halts back
  rw [Source.escapes_iff_of_error failed]
  constructor
  · intro reported
    have complaint : unread f fault = .complaint (.unsuitable f (.source fault)) :=
      if_pos (Bool.of_not_eq_false reported)
    rw [complaint] at ended
    have ending := run_of_complaint glance loaded ended
    rwa [List.append_nil] at ending
  · intro escapes
    have failure : unread f fault = .failure (.source fault) :=
      if_neg (Bool.not_eq_true _ ▸ escapes)
    rw [failure] at ended
    exact run_of_failure glance loaded ended

/-- A file that is not there is reported under its path. -/
theorem missing_file_reported :
    let w : World := { clock := "" }
    let report := run w ["--text-file", "missing.txt"]
    report.ending = .ok 2 ∧ report.errors = complaintText usageLines (.unsuitable .textFile
      (.source (.unreadable "missing.txt" "No such file or directory"))) := by
  intro w report
  have failed : (Source.fetch w.disk w.web "missing.txt").1 =
      .error (.unreadable "missing.txt" "No such file or directory") := by decide +kernel
  have glance : readEarly (([] : List Item).flatMap Item.words ++
      (["--text-file", "missing.txt"] ++ [])) = .ok {} := by rfl
  have reported : ¬ Source.Escapes w.disk w.web "missing.txt" := by
    rw [Source.escapes_iff_of_error failed]
    exact Bool.noConfusion
  have loaded : loadCatalog w ({} : Request).onlineVoices = (.ok Catalog.builtIn, []) := rfl
  obtain ⟨ending, errors⟩ := ((location_reported_iff w "missing.txt").2 _ failed .textFile
    "--text-file" _ (.inl rfl) (by decide) (by decide) (.inl rfl) [] [] {} Catalog.builtIn []
    glance loaded).1 reported
  exact ⟨ending, errors.trans (List.nil_append _)⟩

/-- A file that holds a single byte `FF` is no text.  Its path is not in what is said about it, and
the session fails. -/
theorem latin_file_escapes :
    let w : World := { disk := { files := [(["latin.txt"], [0xFF])] }, clock := "" }
    let fault : Source.Fault := .undecodable ⟨0xFF, 0, 1, .badStart⟩
    (Source.fetch w.disk w.web "latin.txt").1 = .error fault ∧
      fault.isOfSystem = false ∧ ¬ "latin.txt".toList <:+: fault.message.toList ∧
      (run w ["--text-file", "latin.txt"]).ending = .error (.reading (.source fault)) := by
  intro w fault
  have failed : (Source.fetch w.disk w.web "latin.txt").1 = .error fault := by decide +kernel
  have halts : Flag.Halts (surroundings w Catalog.builtIn) .textFile "latin.txt"
      (unread .textFile fault) _ := halts_of_unread (.inl rfl) failed
  have spells : "--text-file" ∈ Flag.textFile.spellings := by decide
  have glance : readEarly ["--text-file", "latin.txt"] = .ok {} := by rfl
  obtain ⟨request, ended⟩ := read_halted [] spells rfl (by decide) (.inl rfl) halts []
  have loaded : loadCatalog w ({} : Request).onlineVoices = (.ok Catalog.builtIn, []) := rfl
  exact ⟨failed, rfl, by decide +kernel, run_of_failure glance loaded ended⟩

end Session
end Recital
