import Hookup.Proofs.CacheAgreement
import Hookup.Proofs.CacheUse
import Hookup.Proofs.Coherence
import Hookup.Proofs.Lifetimes

/-!
# Timings are exact

The timing that stands beside a chain is two instants, the latest start and the earliest stop of its
connections.  They say all there is to say about when the chain is in place as a whole.

* `Timing.Includes` — the instants between the two.
* **`Timing.includes_ofChain_iff`** — they are the instants at which all connections of the chain
  are in place.
* `isActive_of_has` — all connections of a set are, at the instant that the set was built for.
* `madeOf_includes` — so the timings of an entry include that instant, by whichever substitutes and
  under whichever keys its chains came there.
* **`timings_exact`** — both together, for entries of parts and of caches.
-/

namespace Hookup

/-! ## The latest start and the earliest stop -/

/-- What holds of a step exactly if it holds of both sides holds of a fold exactly if it holds of
all items. -/
lemma foldl_iff_forall {α : Type} {step : α → α → α} {P : α → Prop}
    (law : ∀ a b, P (step a b) ↔ P a ∧ P b) (items : List α) (first : α) :
    P (items.foldl step first) ↔ ∀ a ∈ first :: items, P a := by
  induction items generalizing first with
  | nil => simp
  | cons next rest ih =>
      rw [List.foldl_cons, ih]
      simp only [List.forall_mem_cons, law, and_assoc]

namespace Timing

variable {times : List GpsTime} {t : GpsTime} {chain : List Connection}

/-- The latest of some instants is not after an instant exactly if none of them is. -/
lemma exists_latest? (h : times ≠ []) :
    ∃ last, latest? times = some last ∧ ∀ t, last ≤ t ↔ ∀ s ∈ times, s ≤ t := by
  obtain ⟨first, rest, rfl⟩ := List.exists_cons_of_ne_nil h
  refine ⟨rest.foldl GpsTime.later first, rfl, fun t => ?_⟩
  exact foldl_iff_forall (P := (· ≤ t)) (fun _ _ => GpsTime.later_le_iff) rest first

/-- An instant is before the earliest of some, if there are any, exactly if it is before all. -/
lemma lt_earliest?_iff :
    (∀ first, earliest? times = some first → t < first) ↔ ∀ s ∈ times, t < s := by
  cases times with
  | nil => simp [earliest?]
  | cons first rest =>
      rw [← foldl_iff_forall (fun _ _ => GpsTime.lt_earlier_iff) rest first]
      simp [earliest?]

/-! ## Instants of a timing -/

/-- Whether an instant lies within a timing: not before its start and, if it has a stop, before
that.  A timing without a start, like that of a chain without connections, includes no instant. -/
def Includes (timing : Timing) (t : GpsTime) : Prop :=
  ∃ start, timing.start = some start ∧ (⟨start, timing.stop⟩ : Lifetime).contains t = true

/-- **The timing of a chain includes the instants at which all its connections are in place.** -/
theorem includes_ofChain_iff (h : chain ≠ []) :
    (ofChain chain).Includes t ↔ ∀ c ∈ chain, c.isActive t = true := by
  have hne : chain.map (·.life.start) ≠ [] := by simpa using h
  obtain ⟨last, hlast, hstart⟩ := exists_latest? hne
  have hsplit : (ofChain chain).Includes t ↔ last ≤ t ∧
      ∀ first, earliest? (chain.filterMap (·.life.stop)) = some first → t < first := by
    simp only [Includes, ofChain, hlast, Option.some.injEq, exists_eq_left', Lifetime.contains_iff]
  rw [hsplit, hstart, lt_earliest?_iff, List.forall_mem_map]
  simp only [Connection.isActive, Lifetime.contains_iff, List.mem_filterMap]
  constructor
  · rintro ⟨hstarts, hstops⟩ c hc
    exact ⟨hstarts c hc, fun stop hstop => hstops stop ⟨c, hc, hstop⟩⟩
  · intro hactive
    refine ⟨fun c hc => (hactive c hc).1, ?_⟩
    rintro stop ⟨c, hc, hstop⟩
    exact (hactive c hc).2 stop hstop

end Timing

/-! ## Entries of a set -/

/-- Whether an instant lies within the timing of every chain of an entry that has connections. -/
def Entry.ValidAt (e : Entry) (t : GpsTime) : Prop :=
  ∀ key chain, e.chains.get? key = some chain → chain ≠ [] →
    ∃ timing, e.timings.get? key = some timing ∧ timing.Includes t

lemma Entry.validAt_of_madeOf {e : Entry} {t : GpsTime}
    (h : e.MadeOf fun row => row.chain ≠ [] → row.timing.Includes t) : e.ValidAt t := by
  obtain ⟨_, _, rows, rfl, hrows⟩ := h
  intro key chain hchain hne
  rw [ofRows, KeyMap.get?_mapValues] at hchain
  obtain ⟨row, hrow, rfl⟩ := Option.map_eq_some_iff.1 hchain
  refine ⟨row.timing, ?_, hrows key row hrow hne⟩
  rw [ofRows, KeyMap.get?_mapValues, hrow, Option.map_some]

/-- The connections of a set are in place at the instant that it was built for. -/
lemma ActiveSet.Built.isActive_of_has {s : ActiveSet} (hs : s.Built) {c : Connection}
    (h : s.Has c) : c.isActive s.builtFor = true := by
  obtain ⟨instant, records, hs⟩ := hs
  obtain ⟨record, -, hactive, rfl⟩ := mem_activeConnections.1 ((has_iff hs).1 h)
  obtain ⟨-, -, hinstant⟩ := ofRecords_eq_ok hs
  rw [Connection.isActive_canonical, hinstant]
  exact hactive

namespace Resolver

variable {r : Resolver} {key : PartKey} {pol : PolSelection} {hint : Option String} {allowed : Nat}
  {entry : Entry} {row : Entry.Row}

/-- The timing of a row that lists what was walked includes the instant of the set. -/
lemma Traces.includes (hr : r.active.Built) (h : r.Traces hint key row) (hne : row.chain ≠ []) :
    row.timing.Includes r.active.builtFor := by
  rw [h.timing, Timing.includes_ofChain_iff hne]
  exact fun c hc => hr.isActive_of_has ((h.sound hr).has c hc)

lemma madeOf_includes (hr : r.active.Built)
    (h : r.resolveWithin pol hint allowed key = .ok (some entry)) :
    entry.MadeOf fun row => row.chain ≠ [] → row.timing.Includes r.active.builtFor :=
  (resolveWithin_madeOf h).mono fun _ htraces => htraces.includes hr

/-- A resolved entry is valid at the instant of the set, and stays so when it is narrowed. -/
lemma validAt_narrow (hr : r.active.Built)
    (h : r.resolveWithin pol hint allowed key = .ok (some entry)) (wanted : PolSelection) :
    (wanted.narrow entry).ValidAt r.active.builtFor := by
  rw [wanted.narrow_eq_filterKeys]
  exact Entry.validAt_of_madeOf ((madeOf_includes hr h).filterKeys _)

end Resolver

/-! ## The main statement -/

/-- **The timing of a chain is exact, and includes the instant it was resolved for.**  An instant
lies within the timing of a chain that has connections exactly if all of them are in place then.  In
every entry that a part is resolved to on an active set, and in every narrowing of it to a
polarization, the timings of all such chains include the instant of the set, whether the part was
walked from or stands for others; and in every entry that is selected from a cache, that of the
cache. -/
theorem timings_exact (instant : GpsTime) :
    (∀ chain : List Connection, chain ≠ [] →
      ((Timing.ofChain chain).Includes instant ↔ ∀ c ∈ chain, c.isActive instant = true)) ∧
    (∀ (records : Records) (s : ActiveSet) (catalogue : Catalogue) (strict : Bool) (key : PartKey)
      (pol : PolSelection) (hint : Option String) (entry : Entry),
      ActiveSet.ofRecords instant records = .ok s →
      (⟨catalogue, s, strict⟩ : Resolver).resolvePart key pol hint = .ok (some entry) →
      ∀ wanted : PolSelection, (wanted.narrow entry).ValidAt s.builtFor) ∧
    ∀ (service : Service) (cache : HookupCache), service.buildCache instant = .ok cache →
      ∀ (names : List String) (exact : Bool) (wanted : PolSelection) (key : String) (entry : Entry),
        (cache.select names exact wanted).get? key = some entry → entry.ValidAt cache.builtFor := by
  refine ⟨fun chain hne => Timing.includes_ofChain_iff hne, ?_, ?_⟩
  · intro records s catalogue strict key pol hint entry hs h wanted
    exact Resolver.validAt_narrow (r := ⟨catalogue, s, strict⟩) ⟨instant, records, hs⟩ h wanted
  · intro service cache hcache names exact wanted key entry hentry
    obtain ⟨built, hload⟩ := Service.exists_load_of_buildCache hcache
    obtain ⟨records, hbuilt⟩ := ActiveSet.exists_ofRecords_of_load hload
    obtain ⟨part, whole, -, -, hrun, rfl⟩ := Service.exists_of_get?_select hload hcache hentry
    -- the cache and the set it was built from are for one instant
    obtain ⟨-, -, hset⟩ := ActiveSet.ofRecords_eq_ok hbuilt
    obtain ⟨-, hinstant, -⟩ := Service.fields_of_buildCache hcache
    rw [hinstant, ← hset]
    exact Resolver.validAt_narrow (r := service.resolver built false) ⟨instant, records, hbuilt⟩
      hrun wanted

/-- A node with two boards in it, one of which is fed by an amplifier.  The three connections were
made at different times, and two of them will be taken out again. -/
def Records.datedRack : Records where
  parts := [⟨"N1", "A", "node", none, default⟩, ⟨"SNP1", "A", "snap", none, default⟩,
    ⟨"SNP2", "A", "snap", none, default⟩, ⟨"PAM1", "A", "post-amp", none, default⟩]
  connections := [
    ⟨⟨"PAM1", "A", "e"⟩, ⟨"SNP1", "A", "e2"⟩, ⟨⟨3⟩, some ⟨40⟩⟩⟩,
    ⟨⟨"SNP1", "A", "rack"⟩, ⟨"N1", "A", "loc0"⟩, ⟨⟨5⟩, none⟩⟩,
    ⟨⟨"SNP2", "A", "rack"⟩, ⟨"N1", "A", "loc1"⟩, ⟨⟨0⟩, some ⟨30⟩⟩⟩]
  notes := []
  statuses := []
  locations := []

/-- A service on these records, which keeps a cache of the node. -/
def Service.datedRack : Service where
  source := Journal.source ⟨.datedRack, [], []⟩
  catalogue := .hera
  settings := { CacheSettings.standard with stations := ["N"] }

/-- The node has a chain by way of its first board, from the time the board was connected to that at
which the amplifier will be taken out.  The chain was resolved in between, and so were those that a
cache of the node answers with. -/
theorem timings_exact_datedRack :
    (∃ s entry chain timing, ActiveSet.ofRecords ⟨10⟩ .datedRack = .ok s ∧
      (⟨.hera, s, true⟩ : Resolver).resolvePart ⟨"N1:A"⟩ .all none = .ok (some entry) ∧
      (entry.retainPol "E").chains.get? "e<e2>@SNP1" = some chain ∧
      (entry.retainPol "E").timings.get? "e<e2>@SNP1" = some timing ∧
      timing = ⟨some ⟨5⟩, some ⟨40⟩⟩ ∧ timing.Includes ⟨10⟩ ∧
      (timing.Includes ⟨39⟩ ↔ ∀ c ∈ chain, c.isActive ⟨39⟩ = true)) ∧
    ∃ cache picked, Service.datedRack.buildCache ⟨10⟩ = .ok cache ∧
      (cache.select ["n1"] true (.only "E")).get? "N1:A" = some picked ∧
      picked.ValidAt cache.builtFor := by
  obtain ⟨-, hentries, hcaches⟩ := timings_exact ⟨10⟩
  constructor
  · have hrack : (ActiveSet.ofRecords ⟨10⟩ .datedRack).toOption.any (fun s =>
        decide (s.builtFor = ⟨10⟩) &&
        ((⟨.hera, s, true⟩ : Resolver).resolvePart ⟨"N1:A"⟩ .all none).toOption.any fun found =>
          found.any fun entry =>
            ((entry.retainPol "E").chains.get? "e<e2>@SNP1").any (fun chain =>
              decide (chain ≠ []) && decide (Timing.ofChain chain = ⟨some ⟨5⟩, some ⟨40⟩⟩)) &&
            decide ((entry.retainPol "E").timings.get? "e<e2>@SNP1" =
              some ⟨some ⟨5⟩, some ⟨40⟩⟩)) = true := by
      decide +kernel
    obtain ⟨s, hs, htest⟩ := Outcome.exists_of_any hrack
    obtain ⟨hinstant, hentry⟩ := Bool.and_eq_true_iff.1 htest
    obtain ⟨found, hrun, hfound⟩ := Outcome.exists_of_any hentry
    obtain ⟨entry, rfl, htables⟩ := (Option.any_eq_true _ _).1 hfound
    obtain ⟨hchain, htiming⟩ := Bool.and_eq_true_iff.1 htables
    obtain ⟨chain, hchain, htest⟩ := (Option.any_eq_true _ _).1 hchain
    simp only [Bool.and_eq_true, decide_eq_true_eq] at htest hinstant htiming
    obtain ⟨hne, hof⟩ := htest
    obtain ⟨timing, hget, hincludes⟩ :=
      hentries .datedRack s .hera true _ _ _ entry hs hrun (.only "E") _ chain hchain hne
    have hsame : timing = ⟨some ⟨5⟩, some ⟨40⟩⟩ := by
      have hget' : (entry.retainPol "E").timings.get? "e<e2>@SNP1" = some timing := hget
      rw [htiming, Option.some.injEq] at hget'
      exact hget'.symm
    rw [hinstant] at hincludes
    refine ⟨s, entry, chain, timing, hs, hrun, hchain, hget, hsame, hincludes, ?_⟩
    rw [hsame, ← hof]
    exact (timings_exact ⟨39⟩).1 chain hne
  · have hstored : (Service.datedRack.buildCache ⟨10⟩).toOption.any (fun cache =>
        ((cache.select ["n1"] true (.only "E")).get? "N1:A").isSome) = true := by
      decide +kernel
    obtain ⟨cache, hcache, hpicked⟩ := Outcome.exists_of_any hstored
    obtain ⟨picked, hpicked⟩ := Option.isSome_iff_exists.1 hpicked
    exact ⟨cache, picked, hcache, hpicked, hcaches _ cache hcache _ _ _ _ picked hpicked⟩

end Hookup
