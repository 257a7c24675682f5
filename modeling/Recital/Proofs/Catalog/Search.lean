/-
# Ids and names in a catalog

A query may be the id of a voice or a part of its name.  Ids are meant to come first, but the
catalog is gone through only once, and each voice is asked for both: so the first voice with the
id is found only if no voice in front of it has a name that contains the id.  Otherwise that
voice overshadows it and is found in its place.

| catalog | ids come first | what is found |
| --- | --- | --- |
| no voice has the id | the first by name | the same |
| a voice has it, none in front is so named | the first with the id | the same |
| a voice has it, one in front is so named | the first with the id | the first by name |

Names that are read from ids have no dash, and a dash has no case.  So an id with a dash is not
overshadowed in the catalog that is built in, nor in one of an online list
(`not_overshadowed_of_dash`).
-/

import Mathlib.Data.List.TakeWhile
import Recital.Proofs.CommandLine.Item
import Recital.Proofs.Text.Casing

namespace Recital

namespace Catalog

/-- Whether the name of an entry contains a query, case aside. -/
def named (query : String) (e : CatalogEntry) : Bool :=
  Text.occursIn (Text.lower query) (Text.lower e.name)

/-- The first entry with an id. -/
def byId? (c : Catalog) (id : String) : Option CatalogEntry := c.entries.find? fun e => e.id == id

/-- The first entry whose name contains a query. -/
def byName? (c : Catalog) (query : String) : Option CatalogEntry := c.entries.find? (named query)

/-- The entry that answers a query where ids come first. -/
def preferred? (c : Catalog) (query : String) : Option CatalogEntry :=
  (c.byId? query).or (c.byName? query)

/-- The entries in front of the first one with an id. -/
def inFront (c : Catalog) (id : String) : List CatalogEntry :=
  c.entries.takeWhile fun e => e.id != id

/-- Whether an id is that of an entry, and an entry in front of the first such one has a name
that contains it. -/
def Overshadowed (c : Catalog) (query : String) : Prop :=
  (∃ e ∈ c.entries, e.id = query) ∧ ∃ e ∈ c.inFront query, named query e = true

variable {c : Catalog} {query : String} {e : CatalogEntry}

theorem ne_of_mem_inFront (mem : e ∈ c.inFront query) : e.id ≠ query := by
  simpa using List.mem_takeWhile_imp mem

theorem exists_byId (h : ∃ e ∈ c.entries, e.id = query) : ∃ e, c.byId? query = some e := by
  obtain ⟨e, mem, same⟩ := h
  exact Option.isSome_iff_exists.1 (List.find?_isSome.2 ⟨e, mem, by simpa using same⟩)

/-- **What is found** is the first entry by name among those in front of the first one with the
id, and otherwise that one. -/
theorem find?_eq (c : Catalog) (query : String) :
    c.find? query = ((c.inFront query).find? (named query)).or (c.byId? query) := by
  obtain ⟨entries⟩ := c
  unfold find? inFront byId?
  dsimp only
  induction entries with
  | nil => rfl
  | cons e entries ih =>
    by_cases same : e.id = query
    · simp [answers, same]
    · by_cases name : named query e = true
      · have answer : answers query e = true := by
          unfold named at name
          simp [answers, name]
        simp [same, name, answer]
      · have noAnswer : answers query e = false := by
          unfold named at name
          simp [answers, same, name]
        simp [same, name, noAnswer, ih]

theorem find?_of_overshadowed (h : c.Overshadowed query) :
    ∃ e, c.find? query = some e ∧ c.byName? query = some e ∧ e.id ≠ query := by
  obtain ⟨-, b, mem, name⟩ := h
  obtain ⟨e, found⟩ := Option.isSome_iff_exists.1 (List.find?_isSome.2 ⟨b, mem, name⟩)
  refine ⟨e, by rw [find?_eq, found, Option.some_or], ?_,
    ne_of_mem_inFront (List.mem_of_find?_eq_some found)⟩
  have whole : c.entries = c.inFront query ++ c.entries.dropWhile fun e => e.id != query :=
    List.takeWhile_append_dropWhile.symm
  rw [byName?, whole, List.find?_append, found, Option.some_or]

/-- Ids come first exactly where nothing overshadows. -/
theorem find?_eq_preferred?_iff (c : Catalog) (query : String) :
    c.find? query = c.preferred? query ↔ ¬ c.Overshadowed query := by
  constructor
  · intro same shadow
    obtain ⟨e, found, -, other⟩ := find?_of_overshadowed shadow
    obtain ⟨owner, owned⟩ := exists_byId shadow.1
    rw [same, preferred?, owned, Option.some_or] at found
    cases found
    exact other (by simpa using List.find?_some owned)
  · intro clear
    rw [find?_eq, preferred?]
    cases owned : c.byId? query with
    | none =>
      have front : c.inFront query = c.entries := by
        rw [inFront, List.takeWhile_eq_self_iff]
        simpa [byId?] using owned
      rw [Option.or_none, Option.none_or, front, byName?]
    | some e =>
      have member : e ∈ c.entries := List.mem_of_find?_eq_some owned
      have silent : (c.inFront query).find? (named query) = none := by
        rw [List.find?_eq_none]
        intro b mem name
        exact clear ⟨⟨e, member, by simpa using List.find?_some owned⟩, b, mem, name⟩
      rw [silent, Option.none_or, Option.some_or]

/-- Where an id is that of an entry, some entry is found, and it has the id unless that is
overshadowed. -/
theorem exists_found (h : ∃ e ∈ c.entries, e.id = query) :
    ∃ e, c.find? query = some e ∧ (e.id = query ↔ ¬ c.Overshadowed query) := by
  by_cases shadow : c.Overshadowed query
  · obtain ⟨e, found, -, other⟩ := find?_of_overshadowed shadow
    exact ⟨e, found, iff_of_false other (not_not_intro shadow)⟩
  · obtain ⟨e, owned⟩ := exists_byId h
    refine ⟨e, ?_, iff_of_true (by simpa using List.find?_some owned) shadow⟩
    rw [(find?_eq_preferred?_iff c query).2 shadow, preferred?, owned, Option.some_or]

theorem find?_eq_none_iff (c : Catalog) (query : String) :
    c.find? query = none ↔ ∀ e ∈ c.entries, e.id ≠ query ∧ named query e = false := by
  unfold find?
  rw [List.find?_eq_none]
  refine forall₂_congr fun e _ => ?_
  simp [answers, named]

/-! ### Names that are read from ids -/

/-- Whether no name of a catalog has a dash. -/
def Dashless (c : Catalog) : Prop := ∀ e ∈ c.entries, '-' ∉ e.name.toList

theorem Dashless.not_overshadowed (h : c.Dashless) (dash : '-' ∈ query.toList) :
    ¬ c.Overshadowed query := by
  rintro ⟨-, b, mem, name⟩
  have member : b ∈ c.entries := (List.takeWhile_prefix _).subset mem
  rw [named, Text.not_occursIn_lower dash (h b member)] at name
  cases name

/-- The name in an id stands behind its last dash. -/
theorem dash_notMem_entryOfId (id : String) : '-' ∉ (entryOfId id).name.toList := by
  have last : '-' ∉ (id.toList.reverse.takeWhile (· != '-')).reverse := by
    intro mem
    simpa using List.mem_takeWhile_imp (List.mem_reverse.1 mem)
  unfold entryOfId nameOf
  dsimp only
  rw [String.toList_ofList]
  split
  · exact fun mem => last (List.mem_of_mem_take mem)
  · exact last

theorem dashless_builtIn : builtIn.Dashless := by
  intro e mem
  obtain ⟨id, -, rfl⟩ := List.mem_map.1 mem
  exact dash_notMem_entryOfId id

theorem dashless_ofListings {listings : List Value} (ok : ofListings listings = .ok c) :
    c.Dashless := by
  obtain ⟨entries, all, same⟩ := Except.bind_eq_ok.1 ok
  cases same
  intro e mem
  obtain ⟨listing, -, read⟩ := Except.exists_of_mem_mapM all mem
  unfold entryOfListing at read
  split at read
  · cases read
  · cases read
    exact dash_notMem_entryOfId _
  · cases read

end Catalog

namespace CommandLine

open Catalog

/-- What asking for a voice gives: none, with a warning, where no entry was found, and otherwise
the voice of the entry, unless it is disabled. -/
def Progress.asked (p : Progress) (c : Catalog) (query : String) :
    Option CatalogEntry → Except Halt Unit × Progress
  | none =>
    (.ok (), { p with
      request := p.request.added (.voice none), notices := p.notices ++ [.noSuchVoice query] })
  | some e =>
    if c.isEnabled e.voice then (.ok (), { p with request := p.request.added (.voice e.voice) })
    else (.error (.disabledVoice e.name), p)

/-- The option for voices asks the catalog. -/
theorem useStep_voice (s : Surroundings) {query : String} (kept : query ≠ "--") (p : Progress) :
    (useStep s (.given .voice (some query))).run p =
      p.asked s.catalog query (s.catalog.find? query) := by
  rw [useStep_of_kept kept, useFlag, addVoice, resolve?]
  cases s.catalog.find? query with
  | none => rfl
  | some e =>
    by_cases enabled : s.catalog.isEnabled e.voice = true
    · simp only [Option.map_some, Progress.asked, enabled, if_true]
      rfl
    · simp only [Option.map_some, Progress.asked, enabled]
      rfl

/-- The words of the option for voices are its step. -/
theorem steps_voice (query : String) :
    steps Flag.all (promote ["--voice", query]) = [.given .voice (some query)] := by
  have spelled : "--voice" ∈ Flag.voice.spellings := Flag.long_mem_spellings .voice
  rw [steps, promote, promoteFrom_value spelled rfl, stepsFrom_attach rfl]
  rfl

end CommandLine

open CommandLine

/-- **Ids and names in a catalog.**  Ids come first exactly where no voice in front of the first
one with the id has a name that contains it; where one has, the first voice by name is found, and
it has another id.  Nothing is found just if no voice has the id or such a name.  In the catalog
that is built in and in one of an online list an id with a dash is not overshadowed.  So where
an id is that of a voice, the option for voices comes to the voice of an entry, which has this id
exactly if it is not overshadowed. -/
theorem ids_come_first_iff (c : Catalog) (query : String) :
    (c.find? query = c.preferred? query ↔ ¬ c.Overshadowed query) ∧
    (c.Overshadowed query →
      ∃ e, c.find? query = some e ∧ c.byName? query = some e ∧ e.id ≠ query) ∧
    (c.find? query = none ↔ ∀ e ∈ c.entries, e.id ≠ query ∧ Catalog.named query e = false) ∧
    ((c = Catalog.builtIn ∨ ∃ listings, Catalog.ofListings listings = .ok c) →
      '-' ∈ query.toList → ¬ c.Overshadowed query) ∧
    ((∃ e ∈ c.entries, e.id = query) → query ≠ "--" →
      ∃ e, c.find? query = some e ∧ (e.voice.id = query ↔ ¬ c.Overshadowed query) ∧
        steps Flag.all (promote ["--voice", query]) = [.given .voice (some query)] ∧
        ∀ s : Surroundings, s.catalog = c → ∀ p : Progress,
          (useStep s (.given .voice (some query))).run p = p.asked c query (some e)) := by
  refine ⟨Catalog.find?_eq_preferred?_iff c query, Catalog.find?_of_overshadowed,
    Catalog.find?_eq_none_iff c query, ?_, ?_⟩
  · rintro (rfl | ⟨listings, ok⟩)
    · exact Catalog.dashless_builtIn.not_overshadowed
    · exact (Catalog.dashless_ofListings ok).not_overshadowed
  · intro owned kept
    obtain ⟨e, found, whose⟩ := Catalog.exists_found owned
    refine ⟨e, found, whose, steps_voice query, ?_⟩
    rintro s rfl p
    rw [useStep_voice s kept, found]

/-- The id of a voice that is built in is asked for, and is found. -/
theorem guy_built_in :
    let id := "en-US-GuyNeural"
    (∃ e ∈ Catalog.builtIn.entries, e.id = id) ∧ id ≠ "--" ∧ '-' ∈ id.toList ∧
      Catalog.builtIn.find? id = Catalog.builtIn.preferred? id ∧
      ∃ e, Catalog.builtIn.find? id = some e ∧ e.voice.id = id ∧
        ∀ p : Progress, (useStep {} (.given .voice (some id))).run p =
          p.asked Catalog.builtIn id (some e) := by
  intro id
  have owned : ∃ e ∈ Catalog.builtIn.entries, e.id = id :=
    ⟨Catalog.entryOfId id, List.mem_map_of_mem (by decide), rfl⟩
  have kept : id ≠ "--" := by decide
  have dash : '-' ∈ id.toList := by decide
  obtain ⟨first, -, -, made, asked⟩ := ids_come_first_iff Catalog.builtIn id
  have clear := made (.inl rfl) dash
  obtain ⟨e, found, whose, -, run⟩ := asked owned kept
  exact ⟨owned, kept, dash, first.2 clear, e, found, whose.2 clear, run {} rfl⟩

/-- The name of the first voice contains the id of the second, which is asked for: what is found
is the first. -/
theorem guy_overshadowed :
    let c : Catalog :=
      ⟨[{ id := "en-US-1", name := "Guybrush" }, { id := "guy", name := "Anna" }]⟩
    c.byId? "guy" = some { id := "guy", name := "Anna" } ∧
      c.find? "guy" = some { id := "en-US-1", name := "Guybrush" } ∧
      c.find? "guy" ≠ c.byId? "guy" ∧
      ∀ p : Progress, (useStep { catalog := c } (.given .voice (some "guy"))).run p =
        (.ok (), { p with
          request := p.request.added (.voice (some ⟨"en-US-1", "Guybrush"⟩)) }) := by
  intro c
  have name : Catalog.answers "guy" { id := "en-US-1", name := "Guybrush" } = true := by
    decide +kernel
  have found : c.find? "guy" = some { id := "en-US-1", name := "Guybrush" } :=
    List.find?_cons_of_pos name
  have owned : c.byId? "guy" = some { id := "guy", name := "Anna" } := rfl
  refine ⟨owned, found, ?_, fun p => ?_⟩
  · rw [found, owned]
    simp
  · rw [useStep_voice _ (by decide), found]
    rfl

end Recital
