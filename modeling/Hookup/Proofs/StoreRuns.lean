import Hookup.Proofs.Folder
import Hookup.Proofs.StoreWrites
import Hookup.Store.Address

/-!
# Runs of a store

A store lives in a file.  It is written to, refuses some of the writes, and is opened again, by the
same program or by another one.  `OpenStore` is the store with the folder that its file is in,
`OpenStore.step` one event, and `Reached` says which stores can come about at a place.

* `Saved` — the file holds the rows of the store at all times, so that opening it again changes
  nothing (`Saved.step_reopen`).
* `Reached.sound`, `Saved.extends_run` — what one write keeps, every run keeps.
* **`reached_guarantees`** — what operators may rely on, from the first write on.
-/

namespace Hookup

/-- A store that is open, with the folder that its file is in. -/
structure OpenStore where
  folder : Folder
  rows : Store

/-- What happens to a store in a file: it is written to, or opened again. -/
inductive StoreEvent where
  | write (w : StoreWrite) (now : CivilTime)
  | reopen (mode : StoreMode) (now : CivilTime)

namespace OpenStore

/-! ## Events -/

/-- One event.  A write that succeeds is saved, and one that is refused leaves the file alone;
opening the store again takes the rows that the file holds. -/
def step (place : Place) (s : OpenStore) : StoreEvent → OpenStore
  | .write w now =>
    match s.rows.perform w with
    | .ok rows => ⟨s.folder.putAt place ⟨.store rows, now⟩, rows⟩
    | .error _ => s
  | .reopen mode now =>
    match s.folder.openStoreAt? place mode now with
    | some (folder, rows) => ⟨folder, rows⟩
    | none => s

/-- One event after the other. -/
def run (place : Place) (s : OpenStore) (events : List StoreEvent) : OpenStore :=
  events.foldl (step place) s

/-- The stores that can come about at a place: one that was made there without rows, and what any
event makes of one that came about. -/
inductive Reached (place : Place) : OpenStore → Prop
  | made {folder opened : Folder} {mode : StoreMode} {now : CivilTime}
      (h : folder.openStoreAt? place mode now = some (opened, .empty)) :
      Reached place ⟨opened, .empty⟩
  | step {s : OpenStore} (h : Reached place s) (e : StoreEvent) : Reached place (s.step place e)

/-! ## What the file holds -/

/-- Whether the file at a place holds the rows of an open store. -/
structure Saved (place : Place) (s : OpenStore) : Prop where
  not_folder : s.folder.isFolderAt place = false
  holds : ∃ time, s.folder.fileAt? place = some ⟨.store s.rows, time⟩

variable {place : Place} {s : OpenStore}

/-- Where there is no folder, there is none after a store was put there. -/
lemma saved_putAt {folder : Folder} (h : folder.isFolderAt place = false) (rows : Store)
    (now : CivilTime) : Saved place ⟨folder.putAt place ⟨.store rows, now⟩, rows⟩ := by
  have hcontent : FileContent.store rows ≠ .folder := nofun
  refine ⟨(Folder.isFolderAt_putAt h hcontent place).trans h, now, ?_⟩
  rw [Folder.fileAt?_putAt, if_pos rfl]

/-- What is opened is the store in the file, or a new one that is put there. -/
lemma openStoreAt?_cases {folder opened : Folder} {mode : StoreMode} {now : CivilTime}
    {rows : Store} (h : folder.openStoreAt? place mode now = some (opened, rows)) :
    folder.isFolderAt place = false ∧
      ((opened = folder ∧ ∃ time, folder.fileAt? place = some ⟨.store rows, time⟩) ∨
        (opened = folder.putAt place ⟨.store .empty, now⟩ ∧ rows = .empty)) := by
  rw [Folder.openStoreAt?] at h
  cases hfolder : folder.isFolderAt place with
  | true =>
      rw [if_pos hfolder] at h
      cases h
  | false =>
      rw [if_neg (by simp [hfolder])] at h
      refine ⟨rfl, ?_⟩
      match hfile : folder.fileAt? place with
      | none =>
          simp only [hfile] at h
          split_ifs at h with hmakes hroom
          cases h
          exact .inr ⟨rfl, rfl⟩
      | some ⟨.store kept, time⟩ =>
          simp only [hfile] at h
          split_ifs at h with hshares
          cases h
          exact .inl ⟨rfl, time, rfl⟩
      | some ⟨.text content, time⟩ =>
          simp only [hfile] at h
          split_ifs at h with hsize hroom
          cases h
          exact .inr ⟨rfl, rfl⟩
      | some ⟨.binary, time⟩ =>
          simp [hfile] at h
      | some ⟨.folder, time⟩ =>
          simp [hfile] at h

lemma saved_of_openStoreAt? {folder opened : Folder} {mode : StoreMode} {now : CivilTime}
    {rows : Store} (h : folder.openStoreAt? place mode now = some (opened, rows)) :
    Saved place ⟨opened, rows⟩ := by
  obtain ⟨hfolder, ⟨rfl, hholds⟩ | ⟨rfl, rfl⟩⟩ := openStoreAt?_cases h
  · exact ⟨hfolder, hholds⟩
  · exact saved_putAt hfolder .empty now

/-- Opening a store again gives what was saved. -/
lemma Saved.openStoreAt?_eq (h : s.Saved place) (mode : StoreMode) (now : CivilTime) :
    s.folder.openStoreAt? place mode now =
      if mode.shares then some (s.folder, s.rows) else none := by
  obtain ⟨hfolder, time, hfile⟩ := h
  simp only [Folder.openStoreAt?, hfolder, hfile]
  rfl

lemma Saved.step_reopen (h : s.Saved place) (mode : StoreMode) (now : CivilTime) :
    s.step place (.reopen mode now) = s := by
  rw [step, h.openStoreAt?_eq]
  cases mode.shares <;> rfl

lemma step_write_of_ok {w : StoreWrite} {rows : Store} (h : s.rows.perform w = .ok rows)
    (now : CivilTime) :
    s.step place (.write w now) = ⟨s.folder.putAt place ⟨.store rows, now⟩, rows⟩ := by
  rw [step, h]

lemma step_write_of_error {w : StoreWrite} {e : StoreError} (h : s.rows.perform w = .error e)
    (now : CivilTime) : s.step place (.write w now) = s := by
  rw [step, h]

/-- An event changes nothing, or it is a write that is done. -/
lemma Saved.step_cases (h : s.Saved place) (e : StoreEvent) : s.step place e = s ∨
    ∃ w now rows, e = .write w now ∧ s.rows.perform w = .ok rows ∧
      s.step place e = ⟨s.folder.putAt place ⟨.store rows, now⟩, rows⟩ := by
  cases e with
  | write w now =>
      rcases s.rows.perform_cases w with ⟨e, herror, -⟩ | ⟨hok, -⟩
      · exact .inl (step_write_of_error herror now)
      · exact .inr ⟨w, now, _, rfl, hok, step_write_of_ok hok now⟩
  | reopen mode now => exact .inl (h.step_reopen mode now)

lemma Saved.step (h : s.Saved place) (e : StoreEvent) : (s.step place e).Saved place := by
  rcases h.step_cases e with heq | ⟨w, now, rows, -, -, heq⟩ <;> rw [heq]
  · exact h
  · exact saved_putAt h.not_folder rows now

/-! ## What a run keeps -/

lemma Reached.saved (h : s.Reached place) : s.Saved place := by
  induction h with
  | made hopen => exact saved_of_openStoreAt? hopen
  | step _ e ih => exact ih.step e

/-- **Keys are unique and names canonical, whatever happened.** -/
theorem Reached.sound (h : s.Reached place) : s.rows.Sound := by
  induction h with
  | made => exact Store.sound_empty
  | step hreached e ih =>
      rcases hreached.saved.step_cases e with heq | ⟨w, now, rows, -, hok, heq⟩ <;> rw [heq]
      · exact ih
      · exact ih.perform hok

lemma Reached.run (h : s.Reached place) (events : List StoreEvent) :
    (s.run place events).Reached place := by
  induction events generalizing s with
  | nil => exact h
  | cons e rest ih => exact ih (h.step e)

/-- **Whatever happens later, no row is lost, and only stop times change.** -/
theorem Saved.extends_run (h : s.Saved place) (events : List StoreEvent) :
    s.rows.Extends (s.run place events).rows := by
  induction events generalizing s with
  | nil => exact .refl _
  | cons e rest ih =>
      refine Store.Extends.trans ?_ (ih (h.step e))
      rcases h.step_cases e with heq | ⟨w, now, rows, -, hok, heq⟩ <;> rw [heq]
      · exact .refl _
      · exact Store.extends_of_perform hok

end OpenStore

namespace Store

lemma mem_listParts {rows : Store} {part : Part} : part ∈ rows.listParts ↔ part ∈ rows.parts :=
  (List.mergeSort_perm _ _).mem_iff

lemma mem_listConnections {rows : Store} {c : Connection} :
    c ∈ rows.listConnections ↔ c ∈ rows.connections :=
  (List.mergeSort_perm _ _).mem_iff

end Store

namespace OpenStore

/-- **What a store guarantees over a whole run.**  After any writes, done or refused, and any number
of times that the store was opened again: keys are unique and names canonical; opening the store
gives the rows that it had; a part or connection that is entered is listed for ever after, in
canonical form and up to its stop; a stop that succeeds sets the stop of one row and changes nothing
else; and a write that fails, which it does for the reason that its error names, changes nothing. -/
theorem reached_guarantees {place : Place} {s : OpenStore} (h : s.Reached place) :
    s.rows.Sound ∧
    (∀ mode now, mode.shares = true →
      s.folder.openStoreAt? place mode now = some (s.folder, s.rows)) ∧
    (∀ part now rows later, s.rows.addPart part = .ok rows →
      ∃ stop, { part.canonical with life := ⟨part.life.start, stop⟩ } ∈
        ((s.step place (.write (.addPart part) now)).run place later).rows.listParts) ∧
    (∀ c now rows later, s.rows.addConnection c = .ok rows →
      ∃ stop, { c.canonical with life := ⟨c.life.start, stop⟩ } ∈
        ((s.step place (.write (.addConnection c) now)).run place later).rows.listConnections) ∧
    (∀ key t now rows, s.rows.stopPart key t = .ok rows →
      ∃ before row after, s.rows.parts = before ++ row :: after ∧ row.names = key.names ∧
        (s.step place (.write (.stopPart key t) now)).rows = { s.rows with
          parts := before ++ { row with life := { row.life with stop := some t } } :: after }) ∧
    (∀ c t now rows, s.rows.stopConnection c t = .ok rows →
      ∃ before row after, s.rows.connections = before ++ row :: after ∧
        row.identity = c.canonical.identity ∧
        (s.step place (.write (.stopConnection c t) now)).rows = { s.rows with
          connections :=
            before ++ { row with life := { row.life with stop := some t } } :: after }) ∧
    ∀ w now e, s.rows.perform w = .error e →
      s.step place (.write w now) = s ∧ s.rows.Refuses w e := by
  refine ⟨h.sound, fun mode now hmode => ?_, fun part now rows later hadd => ?_,
    fun c now rows later hadd => ?_, fun key t now rows hstop => ?_, fun c t now rows hstop => ?_,
    fun w now e herror => ?_⟩
  · rw [h.saved.openStoreAt?_eq, if_pos hmode]
  · have hok : s.rows.perform (.addPart part) = .ok rows := hadd
    have hmem : part.canonical ∈ (s.step place (.write (.addPart part) now)).rows.parts := by
      rw [step_write_of_ok hok, (Store.perform_eq_ok hok).1]
      exact List.mem_append_right _ (List.mem_singleton_self _)
    obtain ⟨stop, hstop⟩ := ((h.saved.step _).extends_run later).exists_part hmem
    exact ⟨stop, Store.mem_listParts.2 hstop⟩
  · have hok : s.rows.perform (.addConnection c) = .ok rows := hadd
    have hmem : c.canonical ∈ (s.step place (.write (.addConnection c) now)).rows.connections := by
      rw [step_write_of_ok hok, (Store.perform_eq_ok hok).1]
      exact List.mem_append_right _ (List.mem_singleton_self _)
    obtain ⟨stop, hstop⟩ := ((h.saved.step _).extends_run later).exists_connection hmem
    exact ⟨stop, Store.mem_listConnections.2 hstop⟩
  · have hok : s.rows.perform (.stopPart key t) = .ok rows := hstop
    rw [step_write_of_ok hok]
    exact h.sound.exists_stopped_part hstop
  · have hok : s.rows.perform (.stopConnection c t) = .ok rows := hstop
    rw [step_write_of_ok hok]
    exact h.sound.exists_stopped_connection hstop
  · exact ⟨step_write_of_error herror now, Store.perform_eq_error herror⟩

/-- A store that was made in an empty folder. -/
def fresh : OpenStore :=
  ⟨Folder.empty.putAt ["parts.db"] ⟨.store .empty, ⟨0, 0⟩⟩, .empty⟩

lemma reached_fresh : fresh.Reached ["parts.db"] := by
  have hroom : Folder.empty.hasRoomForStore ["parts.db"] = true := rfl
  have hopen : Folder.empty.openStoreAt? ["parts.db"] ⟨true, true⟩ ⟨0, 0⟩ =
      some (fresh.folder, .empty) := by
    rw [Folder.openStoreAt?, hroom]
    rfl
  exact .made hopen

/-- That a station is entered into a store. -/
def enterStation : StoreEvent := .write (.addPart ⟨"hh1", " a", "station", none, default⟩) ⟨0, 0⟩

/-- That an antenna is entered into a store. -/
def enterAntenna : StoreEvent := .write (.addPart ⟨"a1", "h", "antenna", none, default⟩) ⟨0, 0⟩

/-- The connection of the station to the antenna. -/
def stationToAntenna : Connection :=
  ⟨⟨"hh1", "a", "ground"⟩, ⟨"a1", "h", "ground"⟩, default⟩

/-- A store into which a station, an antenna and their connection were entered. -/
def joined : OpenStore :=
  fresh.run ["parts.db"]
    [enterStation, enterAntenna, .write (.addConnection stationToAntenna) ⟨0, 0⟩]

lemma reached_joined : joined.Reached ["parts.db"] := reached_fresh.run _

/-- A station that is entered into a new store is listed for ever after, and is not taken twice.  A
stop of it is the stop of its row, and the antenna stays in place; a stop of its connection is the
stop of the row of that. -/
theorem reached_guarantees_station :
    (∀ later, ∃ stop, (⟨"HH1", "A", "station", none, ⟨⟨0⟩, stop⟩⟩ : Part) ∈
      ((fresh.step ["parts.db"] enterStation).run ["parts.db"] later).rows.listParts) ∧
    (fresh.step ["parts.db"] enterStation).step ["parts.db"] enterStation =
      fresh.step ["parts.db"] enterStation ∧
    (joined.step ["parts.db"] (.write (.stopPart ⟨"hh1: a"⟩ ⟨100⟩) ⟨0, 0⟩)).rows.parts =
      [⟨"HH1", "A", "station", none, ⟨⟨0⟩, some ⟨100⟩⟩⟩,
        ⟨"A1", "H", "antenna", none, ⟨⟨0⟩, none⟩⟩] ∧
    (joined.step ["parts.db"] (.write (.stopConnection stationToAntenna ⟨100⟩) ⟨0, 0⟩)).rows =
      { joined.rows with connections :=
          [⟨⟨"HH1", "A", "ground"⟩, ⟨"A1", "H", "ground"⟩, ⟨⟨0⟩, some ⟨100⟩⟩⟩] } := by
  let station : Part := ⟨"hh1", " a", "station", none, default⟩
  obtain ⟨-, -, -, -, hstopsPart, hstopsConnection, -⟩ := reached_guarantees reached_joined
  refine ⟨?_, ?_, ?_, ?_⟩
  · intro later
    have hcanonical : station.canonical = ⟨"HH1", "A", "station", none, default⟩ := by
      decide +kernel
    obtain ⟨-, -, hstays, -⟩ := reached_guarantees reached_fresh
    obtain ⟨stop, hmem⟩ := hstays station ⟨0, 0⟩ _ later rfl
    rw [hcanonical] at hmem
    exact ⟨stop, hmem⟩
  · have hentered := reached_guarantees (reached_fresh.step enterStation)
    obtain ⟨-, -, -, -, -, -, hrefused⟩ := hentered
    have htaken : (fresh.step ["parts.db"] enterStation).rows.Refuses (.addPart station)
        (.duplicatePart station.key) := .part (List.mem_singleton_self station.canonical) rfl
    obtain ⟨e, herror, -⟩ := Store.exists_refusal htaken
    exact (hrefused _ ⟨0, 0⟩ _ herror).1
  · have hkey : (PartKey.mk "hh1: a").names = ("HH1", "A") := by decide +kernel
    have hparts : joined.rows.parts =
        [⟨"HH1", "A", "station", none, default⟩, ⟨"A1", "H", "antenna", none, default⟩] := by
      decide +kernel
    have hrow : (⟨"HH1", "A", "station", none, default⟩ : Part) ∈ joined.rows.parts := by
      simp [hparts]
    obtain ⟨rows, hok⟩ := Store.exists_stopPart_eq_ok hrow hkey.symm ⟨100⟩
    obtain ⟨before, row, after, hrows, hnames, hafter⟩ := hstopsPart _ _ ⟨0, 0⟩ rows hok
    rw [hparts] at hrows
    have hfirst : row ∉ [(⟨"A1", "H", "antenna", none, default⟩ : Part)] := by
      intro hmem
      rw [List.mem_singleton.1 hmem, hkey] at hnames
      exact absurd hnames (by decide)
    obtain ⟨rfl, rfl, rfl⟩ := Store.eq_of_cons_eq_append hrows hfirst
    rw [hafter]
    rfl
  · have hconnections : joined.rows.connections = [stationToAntenna.canonical] := by
      decide +kernel
    have hrow : stationToAntenna.canonical ∈ joined.rows.connections := by
      simp [hconnections]
    obtain ⟨rows, hok⟩ := Store.exists_stopConnection_eq_ok hrow rfl ⟨100⟩
    obtain ⟨before, row, after, hrows, -, hafter⟩ := hstopsConnection _ _ ⟨0, 0⟩ rows hok
    rw [hconnections] at hrows
    obtain ⟨rfl, rfl, rfl⟩ := Store.eq_of_cons_eq_append hrows List.not_mem_nil
    have hcanonical : stationToAntenna.canonical =
        ⟨⟨"HH1", "A", "ground"⟩, ⟨"A1", "H", "ground"⟩, ⟨⟨0⟩, none⟩⟩ := by
      decide +kernel
    rw [hafter, hcanonical]
    rfl

end OpenStore

end Hookup
