import Mathlib.Data.List.Forall2
import Mathlib.Tactic.Lemma

/-!
# Outcomes that may be errors

Resolution is written in `Except`.  These lemmas take its steps apart: what a composed step says
about its parts when it succeeds and when it fails, and the same for one step made for every item of
a list.
-/

namespace Hookup

namespace Outcome

variable {ε α β : Type}

/-! ## Composed steps -/

lemma bind_eq_ok {x : Except ε α} {f : α → Except ε β} {b : β} :
    x >>= f = .ok b ↔ ∃ a, x = .ok a ∧ f a = .ok b := by
  cases x with
  | error e => simp [bind, Except.bind]
  | ok a => simp [bind, Except.bind]

lemma bind_eq_error {x : Except ε α} {f : α → Except ε β} {e : ε} :
    x >>= f = .error e ↔ x = .error e ∨ ∃ a, x = .ok a ∧ f a = .error e := by
  cases x with
  | error e' => simp [bind, Except.bind]
  | ok a => simp [bind, Except.bind]

lemma map_eq_ok {x : Except ε α} {f : α → β} {b : β} :
    f <$> x = .ok b ↔ ∃ a, x = .ok a ∧ f a = b := by
  cases x with
  | error e => simp [Functor.map, Except.map]
  | ok a => simp [Functor.map, Except.map]

lemma map_eq_error {x : Except ε α} {f : α → β} {e : ε} : f <$> x = .error e ↔ x = .error e := by
  cases x with
  | error e' => simp [Functor.map, Except.map]
  | ok a => simp [Functor.map, Except.map]

@[simp] lemma pure_eq_ok {a b : α} : (pure a : Except ε α) = .ok b ↔ a = b := by
  simp [pure, Except.pure]

@[simp] lemma pure_ne_error {a : α} {e : ε} : (pure a : Except ε α) ≠ .error e := by
  simp [pure, Except.pure]

@[simp] lemma throw_eq_error {e e' : ε} : (throw e : Except ε α) = .error e' ↔ e = e' := by
  simp [throw, throwThe, MonadExceptOf.throw]

lemma toOption_eq_some_iff {x : Except ε α} {a : α} : x.toOption = some a ↔ x = .ok a := by
  cases x <;> simp [Except.toOption]

lemma exists_of_isOk {x : Except ε α} (h : x.isOk = true) : ∃ a, x = .ok a := by
  cases x with
  | error e => cases h
  | ok a => exact ⟨a, rfl⟩

lemma exists_of_isOk_eq_false {x : Except ε α} (h : x.isOk = false) : ∃ e, x = .error e := by
  cases x with
  | error e => exact ⟨e, rfl⟩
  | ok a => cases h

/-- A test of the result says that there is one. -/
lemma exists_of_any {x : Except ε α} {test : α → Bool} (h : x.toOption.any test = true) :
    ∃ a, x = .ok a ∧ test a = true := by
  cases x with
  | error e => cases h
  | ok a => exact ⟨a, rfl, h⟩

/-! ## A step for every item -/

lemma exists_of_mem_right {R : α → β → Prop} {items : List α} {results : List β} {b : β}
    (h : List.Forall₂ R items results) (hb : b ∈ results) : ∃ a ∈ items, R a b := by
  induction h with
  | nil => simp at hb
  | cons hfirst _ ih =>
      rcases List.mem_cons.1 hb with rfl | hb
      · exact ⟨_, List.mem_cons_self, hfirst⟩
      · obtain ⟨a, ha, hab⟩ := ih hb
        exact ⟨a, List.mem_cons_of_mem _ ha, hab⟩

lemma exists_of_mem_left {R : α → β → Prop} {items : List α} {results : List β} {a : α}
    (h : List.Forall₂ R items results) (ha : a ∈ items) : ∃ b ∈ results, R a b :=
  exists_of_mem_right h.flip ha

/-- Two lists of results are the same if any two results for one item are. -/
lemma eq_of_forall₂ {R R' : α → β → Prop} {items : List α} {results results' : List β}
    (h : ∀ a b b', R a b → R' a b' → b = b') (hR : List.Forall₂ R items results)
    (hR' : List.Forall₂ R' items results') : results = results' := by
  induction hR generalizing results' with
  | nil => exact (List.forall₂_nil_left_iff.1 hR').symm
  | cons hfirst _ ih =>
      obtain ⟨b, rest, hfirst', hrest, rfl⟩ := List.forall₂_cons_left_iff.1 hR'
      rw [h _ _ _ hfirst hfirst', ih hrest]

/-- If there are results for all items, there is one for each. -/
lemma exists_of_mapM_eq_some {f : α → Option β} {items : List α} {results : List β}
    (h : items.mapM f = some results) : ∀ a ∈ items, ∃ b, f a = some b := by
  induction items generalizing results with
  | nil => simp
  | cons a rest ih =>
      rw [List.mapM_cons, Option.bind_eq_bind, Option.bind_eq_some_iff] at h
      obtain ⟨b, hb, h⟩ := h
      obtain ⟨bs, hbs, -⟩ := Option.bind_eq_some_iff.1 h
      exact List.forall_mem_cons.2 ⟨⟨b, hb⟩, ih hbs⟩

lemma mapM_eq_some_map {f : α → Option β} {g : α → β} {items : List α}
    (h : ∀ a ∈ items, f a = some (g a)) : items.mapM f = some (items.map g) := by
  induction items with
  | nil => rfl
  | cons a rest ih =>
      obtain ⟨hfirst, hrest⟩ := List.forall_mem_cons.1 h
      rw [List.mapM_cons, hfirst, ih hrest]
      rfl

lemma mapM_congr {m : Type → Type} [Monad m] [LawfulMonad m] {f g : α → m β} {items : List α}
    (h : ∀ a ∈ items, f a = g a) : items.mapM f = items.mapM g := by
  induction items with
  | nil => rfl
  | cons a rest ih =>
      obtain ⟨hfirst, hrest⟩ := List.forall_mem_cons.1 h
      rw [List.mapM_cons, List.mapM_cons, hfirst, ih hrest]

/-- What is made item by item can be undone item by item. -/
lemma mapM_map_eq_some {f : α → β} {undo : β → Option α} {items : List α}
    (h : ∀ a ∈ items, undo (f a) = some a) : (items.map f).mapM undo = some items := by
  rw [List.mapM_map]
  exact (mapM_eq_some_map h).trans (congrArg some items.map_id)

/-- All items give their results, one by one. -/
lemma mapM_eq_ok {f : α → Except ε β} {items : List α} {results : List β} :
    items.mapM f = .ok results ↔ List.Forall₂ (fun a b => f a = .ok b) items results := by
  induction items generalizing results with
  | nil =>
      rw [List.mapM_nil, pure_eq_ok]
      exact ⟨fun h => h ▸ .nil, fun h => (List.forall₂_nil_left_iff.1 h).symm⟩
  | cons a rest ih =>
      rw [List.mapM_cons, bind_eq_ok]
      constructor
      · rintro ⟨b, hb, h⟩
        obtain ⟨bs, hbs, h⟩ := bind_eq_ok.1 h
        rw [pure_eq_ok] at h
        subst h
        exact .cons hb (ih.1 hbs)
      · rintro (_ | ⟨hb, hbs⟩)
        exact ⟨_, hb, bind_eq_ok.2 ⟨_, ih.2 hbs, rfl⟩⟩

/-- A failure is that of one of the items. -/
lemma exists_of_mapM_eq_error {f : α → Except ε β} {items : List α} {e : ε}
    (h : items.mapM f = .error e) : ∃ a ∈ items, f a = .error e := by
  induction items with
  | nil => simp at h
  | cons a rest ih =>
      rw [List.mapM_cons, bind_eq_error] at h
      rcases h with h | ⟨b, -, h⟩
      · exact ⟨a, List.mem_cons_self, h⟩
      · rcases bind_eq_error.1 h with h | ⟨bs, -, h⟩
        · obtain ⟨a', ha', h⟩ := ih h
          exact ⟨a', List.mem_cons_of_mem _ ha', h⟩
        · exact absurd h pure_ne_error

/-- Steps that fail alike, and succeed where the others succeed, fail alike for all items. -/
lemma mapM_eq_error_of {f g : α → Except ε β} {items : List α} {e : ε}
    (hok : ∀ a b, f a = .ok b → ∃ b', g a = .ok b')
    (herror : ∀ a, f a = .error e → g a = .error e)
    (h : items.mapM f = .error e) : items.mapM g = .error e := by
  induction items with
  | nil => exact absurd h pure_ne_error
  | cons a rest ih =>
      rw [List.mapM_cons, bind_eq_error] at h ⊢
      rcases h with h | ⟨b, hb, h⟩
      · exact .inl (herror a h)
      rcases bind_eq_error.1 h with h | ⟨bs, -, h⟩
      · obtain ⟨b', hb'⟩ := hok a b hb
        exact .inr ⟨b', hb', bind_eq_error.2 (.inl (ih h))⟩
      · exact absurd h pure_ne_error

/-- Steps that agree where they do not fail in a certain way agree on all items, if the run does not
fail in this way. -/
lemma mapM_eq_of {f g : α → Except ε β} {P : ε → Prop} {items : List α}
    (h : ∀ a, (∀ e, P e → f a ≠ .error e) → g a = f a)
    (hrun : ∀ e, P e → items.mapM f ≠ .error e) : items.mapM g = items.mapM f := by
  induction items with
  | nil => rfl
  | cons a rest ih =>
      have hfirst : g a = f a := by
        refine h a fun e hbad herror => hrun e hbad ?_
        rw [List.mapM_cons, bind_eq_error]
        exact .inl herror
      rw [List.mapM_cons, List.mapM_cons, hfirst]
      cases hfa : f a with
      | error e => rfl
      | ok b =>
          have hrest : rest.mapM g = rest.mapM f := by
            refine ih fun e hbad herror => hrun e hbad ?_
            rw [List.mapM_cons, bind_eq_error]
            exact .inr ⟨b, hfa, bind_eq_error.2 (.inl herror)⟩
          rw [hrest]

end Outcome

end Hookup
