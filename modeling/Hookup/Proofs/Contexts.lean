import Hookup.Proofs.CacheAgreement
import Hookup.Proofs.CacheUse
import Mathlib.Algebra.Order.Group.Unbundled.Int

/-!
# Contexts do not drift

A query may be handed the context of an earlier one, whose active set is used again if it was built
for nearly the same instant.  What counts is the instant that the set was built for, and not the one
that it was used for last: contexts that are handed on from second to second would otherwise take a
set along to any instant.

* `QueryContext.serves_iff` — a set serves for instants up to a second away, where the distance is
  that of the numbers, also between instants that are too far apart for 64 signed bits.
* `QueryContext.prepare_eq_ok` — a context has the set of the earlier one, if that serves, or else a
  set that was loaded for it.
* `Call`, `contexts` — sessions, in which the store may change from call to call.
* `isLoaded_of_mem_contexts` — every set of a session was loaded by one of its calls, by induction
  on the calls.
* **`contexts_do_not_drift`** — so the set of every context was built for an instant at most a
  second away from its own, however often it was handed on.
-/

namespace Hookup

/-! ## Distances -/

lemma GpsTime.distance_eq (a b : GpsTime) : (a.distance b : ℤ) = |a.toInt - b.toInt| := by
  rw [distance, Int.natCast_natAbs]

/-- A distance has 64 bits. -/
lemma GpsTime.distance_lt (a b : GpsTime) : a.distance b < 2 ^ 64 := by
  have hlow := a.seconds.le_toInt
  have hhigh := a.seconds.toInt_lt
  have hlow' := b.seconds.le_toInt
  have hhigh' := b.seconds.toInt_lt
  rw [distance, toInt, toInt]
  omega

namespace QueryContext

variable {source : RecordSource} {instant : GpsTime} {previous : Option QueryContext}
  {context : QueryContext}

/-- Whether the set of a context was built for an instant at most a second away from another. -/
def IsNear (context : QueryContext) (instant : GpsTime) : Prop :=
  |context.active.builtFor.toInt - instant.toInt| ≤ 1

lemma serves_iff : context.serves instant = true ↔ context.IsNear instant := by
  rw [serves, decide_eq_true_iff, IsNear, ← GpsTime.distance_eq, timeTolerance]
  omega

lemma prepare_of_near {earlier : QueryContext} (h : earlier.IsNear instant) :
    prepare source instant (some earlier) = .ok ⟨instant, earlier.active, true⟩ := by
  rw [prepare, Option.filter_some, if_pos (serves_iff.2 h)]
  rfl

lemma prepare_of_not_near
    (h : ∀ earlier, previous = some earlier → ¬ earlier.IsNear instant) :
    prepare source instant previous = (⟨instant, ·, false⟩) <$> ActiveSet.load source instant := by
  have hnone : previous.filter (·.serves instant) = none := by
    cases previous with
    | none => rfl
    | some earlier => rw [Option.filter_some, if_neg (mt serves_iff.1 (h earlier rfl))]
  rw [prepare, hnone]
  rfl

/-- **What a context is made of**: the set of an earlier one, if that is near, else a set that is
loaded for it. -/
theorem prepare_eq_ok : prepare source instant previous = .ok context ↔
    context.instant = instant ∧
    ((∃ earlier, previous = some earlier ∧ earlier.IsNear instant ∧
        context.active = earlier.active ∧ context.shared = true) ∨
      (∀ earlier, previous = some earlier → ¬ earlier.IsNear instant) ∧
        ActiveSet.load source instant = .ok context.active ∧ context.shared = false) := by
  obtain ⟨own, active, shared⟩ := context
  by_cases hnear : ∃ earlier, previous = some earlier ∧ earlier.IsNear instant
  · obtain ⟨earlier, rfl, hnear⟩ := hnear
    rw [prepare_of_near hnear]
    simp only [Except.ok.injEq, mk.injEq, Option.some.injEq]
    constructor
    · rintro ⟨rfl, rfl, rfl⟩
      exact ⟨rfl, .inl ⟨earlier, rfl, hnear, rfl, rfl⟩⟩
    · rintro ⟨rfl, ⟨_, rfl, -, rfl, rfl⟩ | ⟨hfar, -⟩⟩
      · exact ⟨rfl, rfl, rfl⟩
      · exact absurd hnear (hfar earlier rfl)
  · have hfar : ∀ earlier, previous = some earlier → ¬ earlier.IsNear instant :=
      fun earlier hearlier h => hnear ⟨earlier, hearlier, h⟩
    rw [prepare_of_not_near hfar, Outcome.map_eq_ok]
    simp only [mk.injEq]
    constructor
    · rintro ⟨loaded, hload, rfl, rfl, rfl⟩
      exact ⟨rfl, .inr ⟨hfar, hload, rfl⟩⟩
    · rintro ⟨rfl, ⟨earlier, hearlier, h, -⟩ | ⟨-, hload, rfl⟩⟩
      · exact absurd h (hfar earlier hearlier)
      · exact ⟨active, hload, rfl, rfl, rfl⟩

end QueryContext

/-- A set is built for the instant that it is loaded for. -/
lemma ActiveSet.builtFor_of_load {source : RecordSource} {instant : GpsTime} {s : ActiveSet}
    (h : ActiveSet.load source instant = .ok s) : s.builtFor = instant := by
  obtain ⟨records, hs⟩ := exists_ofRecords_of_load h
  exact (ofRecords_eq_ok hs).2.2

/-- So a context is near the instant that it was prepared for. -/
lemma QueryContext.isNear_of_prepare {source : RecordSource} {instant : GpsTime}
    {previous : Option QueryContext} {context : QueryContext}
    (h : prepare source instant previous = .ok context) : context.IsNear instant := by
  obtain ⟨-, ⟨earlier, -, hnear, hactive, -⟩ | ⟨-, hload, -⟩⟩ := prepare_eq_ok.1 h
  · rwa [IsNear, hactive]
  · rw [IsNear, ActiveSet.builtFor_of_load hload, sub_self, abs_zero]
    exact zero_le_one

/-! ## Queries -/

namespace Service

variable {s : Service} {folder : Folder} {request : Request} {previous : Option QueryContext}
  {resolved : Resolved} {context : QueryContext}

lemma resolveFresh_eq_ok : s.resolveFresh request previous = .ok resolved ↔
    ∃ context, resolved.context = some context ∧
      QueryContext.prepare s.source request.instant previous = .ok context ∧
      (s.resolver context.active request.strict).resolveNames request.names request.exact
        request.pol request.hookupType = .ok resolved.dossier := by
  obtain ⟨dossier, found⟩ := resolved
  constructor
  · intro h
    obtain ⟨context, hcontext, h⟩ := Outcome.bind_eq_ok.1 h
    obtain ⟨dossier', hdossier, h⟩ := Outcome.bind_eq_ok.1 h
    cases h
    exact ⟨context, rfl, hcontext, hdossier⟩
  · rintro ⟨context, rfl, hcontext, hdossier⟩
    exact Outcome.bind_eq_ok.2 ⟨context, hcontext, Outcome.bind_eq_ok.2 ⟨dossier, hdossier, rfl⟩⟩

lemma resolve_of_not_useCache (h : request.useCache = false) :
    s.resolve folder request previous = s.resolveFresh request previous := by
  rw [resolve, h]
  rfl

/-- Whether the cache is asked or not, a context that is returned was prepared for the query. -/
lemma prepare_of_resolve (h : s.resolve folder request previous = .ok resolved)
    (hcontext : resolved.context = some context) :
    QueryContext.prepare s.source request.instant previous = .ok context := by
  have hfresh : s.resolveFresh request previous = .ok resolved := by
    rw [resolve] at h
    split at h
    · cases h
      cases hcontext
    · exact h
  obtain ⟨context', hcontext', hprepare, -⟩ := resolveFresh_eq_ok.1 hfresh
  rw [hcontext, Option.some.injEq] at hcontext'
  rw [hcontext', hprepare]

end Service

/-! ## Sessions -/

namespace Session

/-- A call in a session: the service, with its store as it stands then, the query, and the place of
the call whose context is handed over, if any. -/
structure Call where
  service : Service
  folder : Folder
  request : Request
  previous : Option Nat

/-- The context that is handed over to a call, given those of the calls before it. -/
def Call.handed? (call : Call) (earlier : List (Option QueryContext)) : Option QueryContext :=
  call.previous.bind fun place => earlier[place]?.join

/-- What comes of a call. -/
def Call.outcome (call : Call) (earlier : List (Option QueryContext)) : Except Error Resolved :=
  call.service.resolve call.folder call.request (call.handed? earlier)

/-- The context that a call returns; none if it fails. -/
def Call.context? (call : Call) (earlier : List (Option QueryContext)) : Option QueryContext :=
  (call.outcome earlier).toOption.bind Resolved.context

/-- The contexts that the calls of a session return, one after the other. -/
def contexts (calls : List Call) : List (Option QueryContext) :=
  calls.foldl (fun earlier call => earlier ++ [call.context? earlier]) []

variable {calls before : List Call} {call : Call} {context : QueryContext}

lemma contexts_concat (before : List Call) (call : Call) :
    contexts (before ++ [call]) = contexts before ++ [call.context? (contexts before)] := by
  rw [contexts, List.foldl_append]
  rfl

/-- The context that is handed over is one of those before. -/
lemma mem_of_handed? {earlier : List (Option QueryContext)}
    (h : call.handed? earlier = some context) : some context ∈ earlier := by
  obtain ⟨place, -, hplace⟩ := Option.bind_eq_some_iff.1 h
  exact List.mem_of_getElem? (Option.join_eq_some_iff.1 hplace)

/-- Whether one of some calls could load an active set, for its own instant and from the store as it
stood then. -/
def IsLoaded (calls : List Call) (active : ActiveSet) : Prop :=
  ∃ loader ∈ calls,
    ActiveSet.load loader.service.source loader.request.instant = .ok active

/-- **The set of one more context** was loaded by the call, or before it. -/
lemma isLoaded_step (hbefore : ∀ context, some context ∈ contexts before →
      IsLoaded before context.active)
    (h : QueryContext.prepare call.service.source call.request.instant
      (call.handed? (contexts before)) = .ok context) :
    IsLoaded (before ++ [call]) context.active := by
  obtain ⟨-, ⟨earlier, hearlier, -, hactive, -⟩ | ⟨-, hload, -⟩⟩ := QueryContext.prepare_eq_ok.1 h
  · obtain ⟨loader, hloader, hload⟩ := hbefore earlier (mem_of_handed? hearlier)
    exact ⟨loader, List.mem_append_left _ hloader, hactive ▸ hload⟩
  · exact ⟨call, List.mem_append_right _ List.mem_cons_self, hload⟩

/-- **Every set of a session was loaded by one of its calls**, however often it was handed on. -/
theorem isLoaded_of_mem_contexts : ∀ context, some context ∈ contexts calls →
    IsLoaded calls context.active := by
  induction calls using List.reverseRecOn with
  | nil => exact fun _ h => nomatch h
  | append_singleton before call ih =>
      intro context hcontext
      rw [contexts_concat, List.mem_append, List.mem_singleton] at hcontext
      rcases hcontext with hcontext | hcontext
      · obtain ⟨loader, hloader, hload⟩ := ih context hcontext
        exact ⟨loader, List.mem_append_left _ hloader, hload⟩
      · obtain ⟨resolved, hresolved, hreturned⟩ := Option.bind_eq_some_iff.1 hcontext.symm
        exact isLoaded_step ih (Service.prepare_of_resolve
          (Outcome.toOption_eq_some_iff.1 hresolved) hreturned)

/-- **Contexts do not drift.**  Take any session, in which the store may change from call to call,
and a call in it that does not ask the cache.  If it succeeds, its dossier is resolved on the set of
its context, and this is for the instant of the query.  The set is that of the context that was
handed over, exactly if there was one whose set had been built for an instant at most a second away;
else it is loaded from the store for the instant of the query.  In either case it was built for an
instant at most a second away, being loaded by this call or an earlier one for the instant of its
query.  Distances are exact for all instants. -/
theorem contexts_do_not_drift (before : List Call) (call : Call)
    (hcache : call.request.useCache = false) :
    (∀ resolved, call.outcome (contexts before) = .ok resolved ↔
      ∃ context, resolved.context = some context ∧
        (call.service.resolver context.active call.request.strict).resolveNames call.request.names
          call.request.exact call.request.pol call.request.hookupType = .ok resolved.dossier ∧
        context.instant = call.request.instant ∧
        ((∃ earlier, call.handed? (contexts before) = some earlier ∧
            earlier.IsNear call.request.instant ∧ context.active = earlier.active ∧
            context.shared = true) ∨
          (∀ earlier, call.handed? (contexts before) = some earlier →
            ¬ earlier.IsNear call.request.instant) ∧
          ActiveSet.load call.service.source call.request.instant = .ok context.active ∧
          context.shared = false)) ∧
    (∀ resolved context, call.outcome (contexts before) = .ok resolved →
      resolved.context = some context → context.IsNear call.request.instant ∧
      ∃ loader ∈ before ++ [call],
        ActiveSet.load loader.service.source loader.request.instant = .ok context.active ∧
        context.active.builtFor = loader.request.instant) ∧
    ∀ a b : GpsTime, (a.distance b : ℤ) = |a.toInt - b.toInt| ∧ a.distance b < 2 ^ 64 := by
  refine ⟨fun resolved => ?_, fun resolved context h hcontext => ?_, fun a b =>
    ⟨a.distance_eq b, a.distance_lt b⟩⟩
  · rw [Call.outcome, Service.resolve_of_not_useCache hcache, Service.resolveFresh_eq_ok]
    simp only [QueryContext.prepare_eq_ok]
    constructor
    · rintro ⟨context, hcontext, hprepared, hdossier⟩
      exact ⟨context, hcontext, hdossier, hprepared⟩
    · rintro ⟨context, hcontext, hdossier, hprepared⟩
      exact ⟨context, hcontext, hprepared, hdossier⟩
  · have hprepare := Service.prepare_of_resolve h hcontext
    obtain ⟨loader, hloader, hload⟩ := isLoaded_step isLoaded_of_mem_contexts hprepare
    exact ⟨QueryContext.isNear_of_prepare hprepare, loader, hloader, hload,
      ActiveSet.builtFor_of_load hload⟩

/-- The station of the dish, asked for at an instant. -/
def stationQuery (instant : GpsTime) : Request := ⟨["HH1"], true, .all, instant, none, false, true⟩

/-- A call for the station of the dish. -/
def first : Call := ⟨.dish, .empty, stationQuery ⟨100⟩, none⟩

/-- A call that is handed the context of another one.  By then there are no records any more. -/
def later (instant : GpsTime) (place : Nat) : Call :=
  ⟨{ Service.dish with source := Journal.source default }, .empty, stationQuery instant, some place⟩

/-- Calls of which each is handed the context of the one before. -/
def handedOn : List Call := [first, later ⟨101⟩ 0, later ⟨102⟩ 1, later ⟨.maxValue⟩ 2]

/-- The second call takes over the set of the first one, with the records that are gone by then.  The
third does not take it over from the second, although it comes only a second later.  Nor does a call
at the first of all instants take over a set from the last one, although the difference of the two
is a single second in 64 bits. -/
theorem contexts_do_not_drift_handedOn :
    (contexts (handedOn ++ [later ⟨.minValue⟩ 3])).map
      (Option.map fun c => (c.instant, c.active.builtFor, c.shared)) = [
        some (⟨100⟩, ⟨100⟩, false), some (⟨101⟩, ⟨100⟩, true), some (⟨102⟩, ⟨102⟩, false),
        some (⟨.maxValue⟩, ⟨.maxValue⟩, false), some (⟨.minValue⟩, ⟨.minValue⟩, false)] ∧
    Int64.minValue - Int64.maxValue = 1 ∧
    (∃ resolved context loader, (later ⟨101⟩ 0).outcome (contexts [first]) = .ok resolved ∧
      resolved.context = some context ∧ context.IsNear ⟨101⟩ ∧ loader ∈ [first, later ⟨101⟩ 0] ∧
      ActiveSet.load loader.service.source loader.request.instant = .ok context.active) ∧
    ∃ resolved context, (later ⟨.minValue⟩ 3).outcome (contexts handedOn) = .ok resolved ∧
      resolved.context = some context ∧
      ActiveSet.load (later ⟨.minValue⟩ 3).service.source ⟨.minValue⟩ = .ok context.active := by
  refine ⟨by decide +kernel, by decide +kernel, ?_, ?_⟩
  · have hsecond : ((later ⟨101⟩ 0).outcome (contexts [first])).toOption.any
        (fun resolved => resolved.context.isSome) = true := by
      decide +kernel
    obtain ⟨resolved, hrun, hcontext⟩ := Outcome.exists_of_any hsecond
    obtain ⟨context, hcontext⟩ := Option.isSome_iff_exists.1 hcontext
    obtain ⟨hnear, loader, hloader, hload, -⟩ :=
      (contexts_do_not_drift [first] (later ⟨101⟩ 0) rfl).2.1 resolved context hrun hcontext
    exact ⟨resolved, context, loader, hrun, hcontext, hnear, hloader, hload⟩
  · have hlast : ((later ⟨.minValue⟩ 3).outcome (contexts handedOn)).toOption.any
        (fun resolved => resolved.context.any fun context => !context.shared) = true := by
      decide +kernel
    obtain ⟨resolved, hrun, hcontext⟩ := Outcome.exists_of_any hlast
    obtain ⟨context, hreturned, -, -, hset⟩ :=
      ((contexts_do_not_drift handedOn (later ⟨.minValue⟩ 3) rfl).1 resolved).1 hrun
    rw [hreturned] at hcontext
    rcases hset with ⟨_, -, -, -, hshared⟩ | ⟨-, hload, -⟩
    · simp [hshared] at hcontext
    · exact ⟨resolved, context, hrun, hreturned, hload⟩

end Session

end Hookup
