import HesaiSdk.Library.Logged

/-! Two computations side by side that differ in what they note, but not in what an observer of the notes sees. -/

namespace Library

universe u

/-- The results are related, and the observers of the two logs see the same. -/
structure Agree {ε δ ω : Type*} {α β : Type*} (f : ε → Option ω) (g : δ → Option ω) (R : α → β → Prop)
    (x : Logged ε α) (y : Logged δ β) : Prop where
  val : R x.val y.val
  seen : x.log.filterMap f = y.log.filterMap g

namespace Agree

variable {ε δ ω : Type*} {f : ε → Option ω} {g : δ → Option ω}

section Monad

variable {α β α' β' : Type u} {R : α → β → Prop} {S : α' → β' → Prop} {x : Logged ε α} {y : Logged δ β}

lemma pure {a : α} {b : β} (h : R a b) : Agree f g R (pure a) (pure b) := ⟨h, rfl⟩

lemma bind {k : α → Logged ε α'} {l : β → Logged δ β'} (h : Agree f g R x y)
    (hk : ∀ a b, R a b → Agree f g S (k a) (l b)) : Agree f g S (x >>= k) (y >>= l) := by
  obtain ⟨hval, hseen⟩ := hk x.val y.val h.val
  refine ⟨hval, ?_⟩
  rw [log_bind, log_bind, List.filterMap_append, List.filterMap_append, h.seen, hseen]

/-- A step of the left side alone, of which the observer sees nothing. -/
lemma bind_left {k : α → Logged ε α'} {z : Logged δ β'} (hx : ∀ e ∈ x.log, f e = none)
    (hk : Agree f g S (k x.val) z) : Agree f g S (x >>= k) z := by
  refine ⟨hk.val, ?_⟩
  rw [log_bind, List.filterMap_append, List.filterMap_eq_nil_iff.mpr hx, List.nil_append, hk.seen]

end Monad

lemma note {e : ε} {d : δ} (h : f e = g d) : Agree f g (fun _ _ => True) (Library.note e) (Library.note d) := by
  refine ⟨trivial, ?_⟩
  rw [log_note, log_note, List.filterMap_cons, List.filterMap_cons, h]
  rfl

/-- Two loops over one list, in lockstep. -/
lemma runs {σ τ ι : Type*} {R : σ → τ → Prop} {step : σ → ι → Logged ε σ} {step' : τ → ι → Logged δ τ}
    (hs : ∀ s t i, R s t → Agree f g R (step s i) (step' t i)) {is : List ι} {s : σ} {t : τ} (h : R s t) :
    Agree f g R (Library.runs step is s) (Library.runs step' is t) := by
  induction is generalizing s t with
  | nil => exact ⟨h, rfl⟩
  | cons i is ih =>
    have hfirst := hs s t i h
    have hrest := ih hfirst.val
    refine ⟨hrest.val, ?_⟩
    rw [Library.runs, Library.runs, List.filterMap_append, List.filterMap_append, hfirst.seen, hrest.seen]

end Agree

section Runs

variable {ε σ ι κ : Type*} {step : σ → ι → Logged ε σ}

end Runs

end Library
