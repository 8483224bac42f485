import Hookup.Walk
import Hookup.Proofs.KeyMap
import Mathlib.Data.List.Basic

/-!
# Starts have keys of their own

The hookup key of a start is made of free-form text: a polarization label, and a port where the
part has several for it.  Two starts of one part still never share a key unless they are the same
(**`start_eq_of_key`**), because a port carries the *first* label with its initial
(`Topology.portPol?`): labels that are ever chosen differ in their initials, and so in what their
keys begin with.
-/

namespace Hookup

open Text

/-! ## The ports of a type -/

lemma nodup_firstOccurrences (ports : List String) : (firstOccurrences ports).Nodup := by
  induction ports with
  | nil => exact .nil
  | cons port ports ih =>
      refine List.nodup_cons.2 ⟨?_, ih.filter _⟩
      simp

lemma mem_firstOccurrences {port : String} {ports : List String} :
    port ∈ firstOccurrences ports ↔ port ∈ ports := by
  induction ports with
  | nil => rfl
  | cons first rest ih =>
      rw [firstOccurrences, List.mem_cons, List.mem_cons, List.mem_filter, ih, bne_iff_ne]
      by_cases h : port = first <;> simp [h]

namespace Topology

variable {t : Topology} {pol pol' port port' : String}

lemma nodup_portsOf {partType : String} : (t.portsOf partType).Nodup := by
  rw [portsOf]
  cases t.partType? partType with
  | none => exact .nil
  | some type => exact nodup_firstOccurrences _

lemma mem_portsOf {partType : String} : port ∈ t.portsOf partType ↔
    ∃ type, t.partType? partType = some type ∧ port ∈ type.inputs ++ type.outputs := by
  rw [portsOf]
  cases t.partType? partType with
  | none => simp
  | some type => simp only [Option.map_some, Option.getD_some, PartType.ports, mem_firstOccurrences,
      Option.some.injEq, exists_eq_left']

/-! ## The label of a port -/

/-- The label that a port carries has an initial, and is the first label with it. -/
lemma portPol?_eq_some (h : t.portPol? port = some pol) : ∃ letter, initial? pol = some letter ∧
    t.polarizations.find? (fun label => initial? label == some letter) = some pol := by
  rw [portPol?] at h
  split at h
  · cases h
  next letter _ =>
    have hfound := List.find?_some h
    exact ⟨letter, beq_iff_eq.1 hfound, h⟩

/-- Labels that ports carry are told apart by their initials. -/
lemma portPol?_eq_of_initial? (h : t.portPol? port = some pol) (h' : t.portPol? port' = some pol')
    (hinitial : initial? pol = initial? pol') : pol = pol' := by
  obtain ⟨letter, hletter, hfind⟩ := portPol?_eq_some h
  obtain ⟨letter', hletter', hfind'⟩ := portPol?_eq_some h'
  rw [hletter, hletter', Option.some.injEq] at hinitial
  subst hinitial
  rw [hfind, Option.some.injEq] at hfind'
  exact hfind'

lemma mem_polarizedPorts {partType : String} : (pol, port) ∈ t.polarizedPorts partType ↔
    port ∈ t.portsOf partType ∧ t.portPol? port = some pol := by
  simp only [polarizedPorts, List.mem_filterMap, Option.map_eq_some_iff, Prod.mk.injEq]
  constructor
  · rintro ⟨_, hport, _, hpol, rfl, rfl⟩
    exact ⟨hport, hpol⟩
  · rintro ⟨hport, hpol⟩
    exact ⟨port, hport, pol, hpol, rfl, rfl⟩

/-- A label that a port carries is not empty. -/
lemma toList_ne_nil_of_portPol? (h : t.portPol? port = some pol) : pol.toList ≠ [] := by
  intro hnil
  obtain ⟨letter, hletter, -⟩ := portPol?_eq_some h
  simp [initial?, hnil] at hletter

/-- The ports that are listed for a label carry it. -/
lemma portPol?_of_mem_filter {partType : String}
    (h : port ∈ ((t.polarizedPorts partType).filter (·.1 == pol)).map (·.2)) :
    t.portPol? port = some pol := by
  obtain ⟨⟨own, _⟩, hmem, rfl⟩ := List.mem_map.1 h
  obtain ⟨hmem, hown⟩ := List.mem_filter.1 hmem
  rw [← beq_iff_eq.1 hown]
  exact (mem_polarizedPorts.1 hmem).2

end Topology

/-! ## Hookup keys -/

/-- A hookup key begins as its label does. -/
lemma head?_hookupKey {pol : String} (port : String) (single : Bool) (h : pol.toList ≠ []) :
    (hookupKey pol port single).toList.head? = pol.toList.head? := by
  rw [hookupKey]
  split_ifs
  · rfl
  · rw [String.append_assoc, String.append_assoc, String.toList_append,
      List.head?_append_of_ne_nil _ h]

/-- With the label given, a key with a port tells the port. -/
lemma port_eq_of_hookupKey {pol port port' : String}
    (h : hookupKey pol port false = hookupKey pol port' false) : port = port' := by
  have htexts := congrArg String.toList h
  simp only [hookupKey, Bool.false_eq_true, ↓reduceIte, String.toList_append, List.append_assoc,
    List.append_cancel_left_eq, List.append_cancel_right_eq] at htexts
  exact String.toList_inj.1 htexts

/-! ## Starts -/

namespace Terrain

variable {w : Terrain} {part : Part} {pols : List String} {start start' : Start}

/-- What a start is made of. -/
lemma mem_starts : start ∈ w.starts part pols → start.pol ∈ pols ∧
    start.port ∈ declaredPorts w.topology part.partType start.pol ∧
    start.key = hookupKey start.pol start.port
      ((declaredPorts w.topology part.partType start.pol).length == 1) := by
  intro h
  obtain ⟨pol, hpol, h⟩ := List.mem_flatMap.1 h
  obtain ⟨port, hport, rfl⟩ := List.mem_map.1 h
  refine ⟨hpol, ?_, rfl⟩
  split_ifs at hport
  · exact hport
  · exact (List.mem_filter.1 hport).1

/-- **Two starts of a part with one key are the same start**, whatever the labels and ports are. -/
theorem start_eq_of_key (h : start ∈ w.starts part pols) (h' : start' ∈ w.starts part pols)
    (hkey : start.key = start'.key) : start = start' := by
  obtain ⟨key, pol, port⟩ := start
  obtain ⟨key', pol', port'⟩ := start'
  obtain ⟨-, hport, hmade⟩ := mem_starts h
  obtain ⟨-, hport', hmade'⟩ := mem_starts h'
  simp only at hkey hport hport' hmade hmade'
  subst hkey
  suffices hsame : pol = pol' ∧ port = port' by rw [hsame.1, hsame.2]
  rw [declaredPorts] at hport hmade hport' hmade'
  split_ifs at hport hmade hport' hmade' with hnone
  · -- the type has no port of a single polarization: one start for each label
    rw [List.mem_singleton] at hport hport'
    refine ⟨?_, hport.trans hport'.symm⟩
    simpa [hookupKey] using hmade.symm.trans hmade'
  · -- a port of a label carries it, and labels that are carried differ in their initials
    have hlabel := Topology.portPol?_of_mem_filter hport
    have hlabel' := Topology.portPol?_of_mem_filter hport'
    have hpol : pol = pol' := by
      refine Topology.portPol?_eq_of_initial? hlabel hlabel' ?_
      rw [initial?, initial?, ← head?_hookupKey port _ (Topology.toList_ne_nil_of_portPol? hlabel),
        ← head?_hookupKey port' _ (Topology.toList_ne_nil_of_portPol? hlabel'), ← hmade, ← hmade']
    subst hpol
    refine ⟨rfl, ?_⟩
    cases hsingle : (((w.topology.polarizedPorts part.partType).filter (·.1 == pol)).map
        (·.2)).length == 1 with
    | true =>
        obtain ⟨only, honly⟩ := List.length_eq_one_iff.1 (beq_iff_eq.1 hsingle)
        rw [honly, List.mem_singleton] at hport hport'
        rw [hport, hport']
    | false =>
        rw [hsingle] at hmade hmade'
        exact port_eq_of_hookupKey (hmade.symm.trans hmade')

end Terrain

end Hookup
