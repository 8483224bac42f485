import Hookup.Proofs.Merging
import Mathlib.Logic.Relation

/-!
# Redirects are transparent

A part that stands for others, and resolves, merges what these come to on their own.  So its entry
can be told from theirs: it is the entry of a single one under another name, has the chains of
several under longer keys, and is missing only where all of theirs are.

* `mergeSubstitutes_of_sole`, `mergeSubstitutes_eq_none_iff` — what comes of a single substitute, and
  when nothing comes of them.
* `SoleSubstitute` — a part that stands for exactly one other; `entry_of_sole_row` follows any
  number of these in a row.
* **`resolvePart_transparent`** — the main statement.
-/

namespace Hookup

namespace Resolver

variable {r : Resolver} {pol : PolSelection} {hint : Option String} {key substitute last : PartKey}
  {part : Part} {hookupType : String} {via : Direction} {found : Option Entry} {e : Entry}
  {substitutes : List PartKey} {resolve : PartKey → Except Error (Option Entry)}

/-! ## What comes of merging -/

/-- The entry of a single substitute is taken over as it is, under another name. -/
lemma mergeSubstitutes_of_sole (h : mergeSubstitutes part [substitute] resolve = .ok found)
    (he : resolve substitute = .ok (some e)) : found = some { e with key := part.key.text } := by
  obtain ⟨outcomes, houtcomes, rfl⟩ := mergeSubstitutes_eq_ok.1 h
  obtain ⟨_, rest, ⟨found, hfound, rfl⟩, hrest, rfl⟩ := List.forall₂_cons_left_iff.1 houtcomes
  rw [he, substituteOutcome_ok, Except.ok.injEq] at hfound
  rw [List.forall₂_nil_left_iff.1 hrest, ← hfound]
  rfl

/-- Nothing comes of substitutes none of which has an entry. -/
lemma mergeSubstitutes_eq_none_iff (h : mergeSubstitutes part substitutes resolve = .ok found) :
    found = none ↔ ∀ substitute ∈ substitutes, ∀ e, resolve substitute ≠ .ok (some e) := by
  obtain ⟨outcomes, houtcomes, rfl⟩ := mergeSubstitutes_eq_ok.1 h
  have hnil : outcomes.filterMap id = [] ↔ ∀ o ∈ outcomes, o = none := List.filterMap_eq_nil_iff
  have hnone : mergeEntries part (outcomes.filterMap id) = none ↔ ∀ o ∈ outcomes, o = none := by
    rw [← hnil]
    cases outcomes.filterMap id <;> simp [mergeEntries]
  rw [hnone]
  constructor
  · intro hall substitute hsub e he
    obtain ⟨o, ho, found, hfound, rfl⟩ := Outcome.exists_of_mem_left houtcomes hsub
    rw [he, substituteOutcome_ok, Except.ok.injEq] at hfound
    have hmap := hall _ ho
    rw [← hfound] at hmap
    cases hmap
  · intro hall o ho
    obtain ⟨substitute, hsub, found, hfound, rfl⟩ := Outcome.exists_of_mem_right houtcomes ho
    cases found with
    | none => rfl
    | some e =>
        have hok := (substituteOutcome_eq_ok.1 hfound).resolve_right fun hpassed => by
          cases hpassed.1
        exact absurd hok (hall substitute hsub e)

/-! ## One substitute after the other -/

/-- Whether a part only stands for others, of which there is exactly one. -/
def SoleSubstitute (r : Resolver) (hint : Option String) (key substitute : PartKey) : Prop :=
  ∃ part hookupType via, r.active.part? key = some part ∧
    r.catalogue.classify part hint = .ok (.redirect hookupType via) ∧
    r.active.wiring.neighbours key via = [substitute]

/-- A part that resolves has the entry of its only substitute, if that has one. -/
lemma entry_of_sole (hr : r.active.Built) (hsole : r.SoleSubstitute hint key substitute)
    (h : r.resolvePart key pol hint = .ok found)
    (he : r.resolvePart substitute pol hint = .ok (some e)) :
    found = some { e with key := key.text } := by
  obtain ⟨part, hookupType, via, hpart, hrole, hattached⟩ := hsole
  have hmerged := mergeSubstitutes_resolvePart hpart hrole h
  rw [hr.key_of_part? hpart, hattached] at hmerged
  rw [← hr.key_of_part? hpart]
  exact mergeSubstitutes_of_sole hmerged he

/-- If the only substitute of a part that resolves is a redirect, it resolves as well. -/
lemma exists_ok_of_sole (hr : r.active.Built) (hsole : r.SoleSubstitute hint key substitute)
    (hnext : ∃ other, r.SoleSubstitute hint substitute other)
    (h : r.resolvePart key pol hint = .ok found) :
    ∃ own, r.resolvePart substitute pol hint = .ok own := by
  obtain ⟨part, hookupType, via, hpart, hrole, hattached⟩ := hsole
  obtain ⟨_, _, _, _, hactive, hredirect, -⟩ := hnext
  have hmerged := mergeSubstitutes_resolvePart hpart hrole h
  rw [hr.key_of_part? hpart, hattached] at hmerged
  rcases resolve_of_mergeSubstitutes hmerged List.mem_cons_self with hok | ⟨e, herror, hpassed⟩
  · exact hok
  · rw [isPassedOver_of_redirect hactive hredirect herror] at hpassed
    cases hpassed

/-- **Through any number of redirects in a row**, each with one substitute, the entry at the end is
taken over. -/
theorem entry_of_sole_row (hr : r.active.Built)
    (hrow : Relation.TransGen (r.SoleSubstitute hint) key last)
    (h : r.resolvePart key pol hint = .ok found)
    (he : r.resolvePart last pol hint = .ok (some e)) :
    found = some { e with key := key.text } := by
  induction hrow using Relation.TransGen.head_induction_on generalizing found with
  | single hsole => exact entry_of_sole hr hsole h he
  | @head key next hsole hrest ih =>
      obtain ⟨other, hnext, -⟩ := Relation.TransGen.head'_iff.1 hrest
      obtain ⟨own, hown⟩ := exists_ok_of_sole hr hsole ⟨other, hnext⟩ h
      rw [ih hown] at hown
      exact entry_of_sole (e := { e with key := next.text }) hr hsole h hown

/-! ## The main statement -/

/-- **A redirect is transparent.**  Let a part that only stands for others resolve, in a set made
from records.  Then each of its substitutes, resolved on its own, resolves as well, or is of an
unknown type or not there.  If there is exactly one and it has an entry, the part has the same under
its own name, and so through any number of such redirects in a row.  If there are several, the
hookup keys are those of their entries, each with the part number after it that is read off the key
of the substitute.  The part has no entry exactly if none of the substitutes has one. -/
theorem resolvePart_transparent {instant : GpsTime} {records : Records} {s : ActiveSet}
    {catalogue : Catalogue} {strict : Bool} (hs : ActiveSet.ofRecords instant records = .ok s)
    (hpart : s.part? key = some part)
    (hrole : catalogue.classify part hint = .ok (.redirect hookupType via))
    (h : (⟨catalogue, s, strict⟩ : Resolver).resolvePart key pol hint = .ok found) :
    let r : Resolver := ⟨catalogue, s, strict⟩
    let substitutes := s.wiring.neighbours key via
    (∀ sub ∈ substitutes, (∃ own, r.resolvePart sub pol hint = .ok own) ∨
      (∃ p partType, r.resolvePart sub pol hint = .error (.unknownPartType p partType)) ∨
      ∃ p, r.resolvePart sub pol hint = .error (.partNotFound p)) ∧
    (∀ sub e, substitutes = [sub] → r.resolvePart sub pol hint = .ok (some e) →
      found = some { e with key := key.text }) ∧
    (∀ last e, Relation.TransGen (r.SoleSubstitute hint) key last →
      r.resolvePart last pol hint = .ok (some e) → found = some { e with key := key.text }) ∧
    (∀ entry, 1 < substitutes.length → found = some entry → ∀ k, k ∈ entry.keys ↔
      ∃ sub ∈ substitutes, ∃ e, r.resolvePart sub pol hint = .ok (some e) ∧
        ∃ old ∈ e.keys, k = old ++ "@" ++ sub.hpn) ∧
    (found = none ↔ ∀ sub ∈ substitutes, ∀ e, r.resolvePart sub pol hint ≠ .ok (some e)) := by
  intro r substitutes
  have hbuilt : r.active.Built := ⟨instant, records, hs⟩
  have hkey : part.key = key := hbuilt.key_of_part? hpart
  have hmerged := mergeSubstitutes_resolvePart (r := r) hpart hrole h
  rw [hkey] at hmerged
  refine ⟨fun sub hsub => ?_, fun sub e hsole he => ?_, fun last e hrow he => ?_,
    fun entry hseveral hfound k => ?_, mergeSubstitutes_eq_none_iff hmerged⟩
  · rcases resolve_of_mergeSubstitutes hmerged hsub with hok | ⟨e, herror, hpassed⟩
    · exact .inl hok
    · rcases Error.isPassedOver_iff.1 hpassed with ⟨p, partType, rfl⟩ | ⟨p, rfl⟩
      · exact .inr (.inl ⟨p, partType, herror⟩)
      · exact .inr (.inr ⟨p, herror⟩)
  · exact entry_of_sole (r := r) hbuilt ⟨part, hookupType, via, hpart, hrole, hsole⟩ h he
  · exact entry_of_sole_row (r := r) hbuilt hrow h he
  · subst hfound
    have hattached : r.active.wiring.neighbours part.key via = substitutes := by rw [hkey]
    have hown := mergedFrom_ownEntries (r := r) hpart hrole (hattached ▸ hseveral) h
    rw [hattached] at hown
    rw [hown.mem_keys]
    constructor
    · rintro ⟨⟨sub, e⟩, hsub, old, hold, rfl⟩
      exact ⟨sub, (mem_ownEntries.1 hsub).1, e, (mem_ownEntries.1 hsub).2, old, hold, rfl⟩
    · rintro ⟨sub, hsub, e, he, old, hold, rfl⟩
      exact ⟨(sub, e), mem_ownEntries.2 ⟨hsub, he⟩, old, hold, rfl⟩

/-- Four aliases in a row that end at a dish, of which the first has the entry of the dish, and a
node that has the chains of its two boards. -/
theorem resolvePart_transparent_aliases_rack :
    (∃ s e, ActiveSet.ofRecords ⟨10⟩ .aliases = .ok s ∧
      (⟨.aliases, s, true⟩ : Resolver).resolvePart ⟨"D:A"⟩ .all none = .ok (some e) ∧
      (⟨.aliases, s, true⟩ : Resolver).resolvePart ⟨"X1:A"⟩ .all none =
        .ok (some { e with key := "X1:A" })) ∧
    ∃ s entry, ActiveSet.ofRecords ⟨10⟩ .rack = .ok s ∧
      (⟨.hera, s, true⟩ : Resolver).resolvePart ⟨"N1:A"⟩ .all none = .ok (some entry) ∧
      ∀ k ∈ entry.keys, (∃ old, k = old ++ "@SNP1") ∨ ∃ old, k = old ++ "@SNP2" := by
  constructor
  · let aliasOf (hpn : String) : Part := ⟨hpn, "A", "alias", none, default⟩
    let row : List (String × PartKey × PartKey) := [("X1", ⟨"X1:A"⟩, ⟨"X2:A"⟩),
      ("X2", ⟨"X2:A"⟩, ⟨"X3:A"⟩), ("X3", ⟨"X3:A"⟩, ⟨"X4:A"⟩), ("X4", ⟨"X4:A"⟩, ⟨"D:A"⟩)]
    have hset : (ActiveSet.ofRecords ⟨10⟩ .aliases).toOption.any (fun s =>
        decide (∀ p ∈ row, s.part? p.2.1 = some (aliasOf p.1) ∧
          s.wiring.neighbours p.2.1 .down = [p.2.2]) &&
        ((⟨.aliases, s, true⟩ : Resolver).resolvePart ⟨"X1:A"⟩ .all none).toOption.any
          Option.isSome &&
        ((⟨.aliases, s, true⟩ : Resolver).resolvePart ⟨"D:A"⟩ .all none).toOption.any
          Option.isSome) = true := by
      decide +kernel
    have hrole : ∀ p ∈ row, Catalogue.aliases.classify (aliasOf p.1) none =
        .ok (.redirect "aliases" .down) := by
      decide +kernel
    obtain ⟨s, hs, htest⟩ := Outcome.exists_of_any hset
    simp only [Bool.and_eq_true, decide_eq_true_eq] at htest
    obtain ⟨⟨hrow, hfirst⟩, hdish⟩ := htest
    obtain ⟨found, hfound, -⟩ := Outcome.exists_of_any hfirst
    obtain ⟨own, hown, hsome⟩ := Outcome.exists_of_any hdish
    obtain ⟨e, rfl⟩ := Option.isSome_iff_exists.1 hsome
    have hsole : ∀ p ∈ row, (⟨.aliases, s, true⟩ : Resolver).SoleSubstitute none p.2.1 p.2.2 :=
      fun p hp => ⟨aliasOf p.1, "aliases", .down, (hrow p hp).1, hrole p hp, (hrow p hp).2⟩
    have hchain : Relation.TransGen ((⟨.aliases, s, true⟩ : Resolver).SoleSubstitute none)
        ⟨"X1:A"⟩ ⟨"D:A"⟩ :=
      .head (hsole ("X1", ⟨"X1:A"⟩, ⟨"X2:A"⟩) (by decide)) <|
        .head (hsole ("X2", ⟨"X2:A"⟩, ⟨"X3:A"⟩) (by decide)) <|
        .head (hsole ("X3", ⟨"X3:A"⟩, ⟨"X4:A"⟩) (by decide)) <|
        .single (hsole ("X4", ⟨"X4:A"⟩, ⟨"D:A"⟩) (by decide))
    have hactive : s.part? ⟨"X1:A"⟩ = some (aliasOf "X1") :=
      (hrow ("X1", ⟨"X1:A"⟩, ⟨"X2:A"⟩) (by decide)).1
    obtain ⟨-, -, hsame, -⟩ := resolvePart_transparent hs hactive
      (hrole ("X1", ⟨"X1:A"⟩, ⟨"X2:A"⟩) (by decide)) hfound
    refine ⟨s, e, hs, hown, ?_⟩
    rw [hfound, hsame _ e hchain hown]
  · let node : Part := ⟨"N1", "A", "node", none, default⟩
    have hrack : (ActiveSet.ofRecords ⟨10⟩ .rack).toOption.any (fun s =>
        decide (s.part? ⟨"N1:A"⟩ = some node) &&
        decide (s.wiring.neighbours ⟨"N1:A"⟩ .up = [⟨"SNP1:A"⟩, ⟨"SNP2:A"⟩]) &&
        ((⟨.hera, s, true⟩ : Resolver).resolvePart ⟨"N1:A"⟩ .all none).toOption.any
          Option.isSome) = true := by
      decide +kernel
    have hrole : Catalogue.hera.classify node none = .ok (.redirect "parts_hera" .up) := by
      decide +kernel
    obtain ⟨s, hs, htest⟩ := Outcome.exists_of_any hrack
    simp only [Bool.and_eq_true, decide_eq_true_eq] at htest
    obtain ⟨⟨hpart, hattached⟩, hrun⟩ := htest
    obtain ⟨found, hfound, hsome⟩ := Outcome.exists_of_any hrun
    obtain ⟨entry, rfl⟩ := Option.isSome_iff_exists.1 hsome
    obtain ⟨-, -, -, hkeys, -⟩ := resolvePart_transparent hs hpart hrole hfound
    rw [hattached] at hkeys
    have hnumbers : ∀ sub ∈ [(⟨"SNP1:A"⟩ : PartKey), ⟨"SNP2:A"⟩],
        sub.hpn = "SNP1" ∨ sub.hpn = "SNP2" := by
      decide +kernel
    refine ⟨s, entry, hs, hfound, fun k hk => ?_⟩
    obtain ⟨sub, hsub, e, -, old, -, rfl⟩ := (hkeys entry (by decide) rfl k).1 hk
    rcases hnumbers sub hsub with hhpn | hhpn
    · exact .inl ⟨old, by rw [hhpn, String.append_assoc]; rfl⟩
    · exact .inr ⟨old, by rw [hhpn, String.append_assoc]; rfl⟩

end Resolver

end Hookup
