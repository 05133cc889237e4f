import Mathlib.Data.List.AList

/-!
# Finite maps with non-dependent values

Rust's `HashMap<K, V>` is modelled by Mathlib's `AList`, whose `nodupKeys` field makes a
map with a repeated key impossible to build.  `AList` offers `lookup`, `insert` and
`erase`; this file adds the one operation it lacks, `retain` (`HashMap::retain`), and the
lookup equations the models cite instead of unfolding the map operations.

`Grows R s t` says that every key present in both maps has related values; with `R` a
preorder it is the relation "no value was lowered" that the address-source monotonicity
results are phrased in, and it composes along a sequence of map updates.

A loop over a `HashMap` or a `HashSet` visits its elements in an order the code does not fix,
and a model has to pick one.  `List.Perm.foldl_rel` says when the pick does not matter: a loop
whose body respects an equivalence, and whose bodies for two distinct elements commute up to
it, ends in equivalent states for every order of the elements.
-/

namespace AList

variable {α β : Type*} [DecidableEq α]

/-! ## `retain` -/

/-- Keep the entries on which `p` holds, in order (`HashMap::retain`). -/
def retain (p : α → β → Bool) (s : AList (fun _ : α => β)) : AList (fun _ : α => β) :=
  ⟨s.entries.filter (fun e => p e.1 e.2), s.nodupKeys.sublist List.filter_sublist⟩

theorem lookup_retain (p : α → β → Bool) (s : AList (fun _ : α => β)) (a : α) :
    (s.retain p).lookup a = (s.lookup a).filter (p a) := by
  cases h : s.lookup a with
  | none =>
    have hnot : a ∉ s := lookup_eq_none.1 h
    apply lookup_eq_none.2
    intro hmem
    have hsub : (s.retain p).keys ⊆ s.keys :=
      keys_subset_keys_of_entries_subset_entries (fun _ he => (List.mem_filter.1 he).1)
    exact hnot (mem_keys.2 (hsub (mem_keys.1 hmem)))
  | some b =>
    have hb : (⟨a, b⟩ : Sigma fun _ : α => β) ∈ s.entries := mem_lookup_iff.1 h
    by_cases hp : p a b
    · simp only [Option.filter_some, hp, if_true]
      exact mem_lookup_iff.2 (List.mem_filter.2 ⟨hb, hp⟩)
    · simp only [Option.filter_some, hp]
      cases h' : (s.retain p).lookup a with
      | none => rfl
      | some b' =>
        have hmem := List.mem_filter.1 (mem_lookup_iff.1 h')
        have hb' : s.lookup a = some b' := mem_lookup_iff.2 hmem.1
        rw [h] at hb'
        cases hb'
        exact absurd hmem.2 hp

/-- Retaining by a predicate that every entry satisfies changes nothing. -/
theorem retain_of_forall {p : α → β → Bool} {s : AList (fun _ : α => β)}
    (h : ∀ a b, s.lookup a = some b → p a b = true) : s.retain p = s := by
  apply ext
  apply List.filter_eq_self.2
  intro e he
  exact h e.1 e.2 (mem_lookup_iff.2 he)

/-! ## Lookup after an update -/

theorem lookup_insert_eq_ite (s : AList (fun _ : α => β)) (k a : α) (v : β) :
    (s.insert k v).lookup a = if a = k then some v else s.lookup a := by
  by_cases h : a = k
  · subst h; simp [lookup_insert]
  · simp [lookup_insert_ne h, h]

theorem lookup_erase_eq_ite (s : AList (fun _ : α => β)) (k a : α) :
    (s.erase k).lookup a = if a = k then none else s.lookup a := by
  by_cases h : a = k
  · subst h; simp [lookup_erase]
  · simp [lookup_erase_ne h, h]

theorem mem_iff_lookup_isSome (s : AList (fun _ : α => β)) (a : α) :
    a ∈ s ↔ (s.lookup a).isSome :=
  lookup_isSome.symm

/-- The entries of a map are, up to order, the entry of a present key followed by the entries
left once the key is erased. -/
theorem entries_perm_cons_erase {s : AList (fun _ : α => β)} {a : α} {b : β}
    (h : s.lookup a = some b) : s.entries.Perm (⟨a, b⟩ :: (s.erase a).entries) := by
  have hmem : a ∈ s.entries.keys := mem_keys.1 (lookup_isSome.1 (by simp [h]))
  obtain ⟨b', l₁, l₂, -, hl, hk⟩ := List.exists_of_kerase hmem
  -- the entry `kerase` takes out is the one `lookup` finds
  have hb : b' = b := by
    have hin : (⟨a, b'⟩ : Sigma fun _ : α => β) ∈ s.entries := by
      rw [hl]
      exact List.mem_append_right _ List.mem_cons_self
    exact Option.some.inj ((mem_lookup_iff.2 hin).symm.trans h)
  subst hb
  have he : (s.erase a).entries = s.entries.kerase a := rfl
  rw [he, hk, hl]
  exact List.perm_middle

/-! ## Maps whose common values only grow -/

/-- Every key present in both `s` and `t` carries related values. -/
def Grows (R : β → β → Prop) (s t : AList (fun _ : α => β)) : Prop :=
  ∀ a b b', s.lookup a = some b → t.lookup a = some b' → R b b'

section Grows

variable {R : β → β → Prop} {s t u : AList (fun _ : α => β)}

theorem Grows.refl (hR : ∀ b, R b b) (s : AList (fun _ : α => β)) : Grows R s s := by
  intro a b b' h h'
  rw [h] at h'
  cases h'
  exact hR b

/-- Growing composes, provided no key of `s` disappears in the middle map: a key that was
erased and inserted again may carry any value. -/
theorem Grows.trans (hR : ∀ b c d, R b c → R c d → R b d) (h₁ : Grows R s t) (h₂ : Grows R t u)
    (hkeep : ∀ a, a ∈ s → a ∈ u → a ∈ t) : Grows R s u := by
  intro a b d hb hd
  have hs : a ∈ s := lookup_isSome.1 (by simp [hb])
  have hu : a ∈ u := lookup_isSome.1 (by simp [hd])
  obtain ⟨c, hc⟩ := Option.isSome_iff_exists.1 (lookup_isSome.2 (hkeep a hs hu))
  exact hR b c d (h₁ a b c hb hc) (h₂ a c d hc hd)

end Grows

end AList

/-! ## Iteration order -/

namespace List

variable {α β : Type*}

/-- A fold whose steps respect the equivalence `R`, and commute up to `R` on distinct elements,
gives `R`-equivalent results on any two orders of its list. -/
theorem Perm.foldl_rel {R : β → β → Prop} (hR : Equivalence R) {f : β → α → β}
    (congr : ∀ a x y, R x y → R (f x a) (f y a))
    (comm : ∀ a b, a ≠ b → ∀ x, R (f (f x a) b) (f (f x b) a))
    {l₁ l₂ : List α} (p : l₁.Perm l₂) {x y : β} (h : R x y) : R (l₁.foldl f x) (l₂.foldl f y) := by
  induction p generalizing x y with
  | nil => exact h
  | cons a _ ih => exact ih (congr a x y h)
  | swap a b l =>
    -- the two elements visited first are met in the other order
    have hba : R (f (f x b) a) (f (f x a) b) := by
      by_cases hab : b = a
      · subst hab
        exact hR.refl _
      · exact comm b a hab x
    rw [List.foldl_cons, List.foldl_cons, List.foldl_cons, List.foldl_cons]
    exact List.foldl_rel (hR.trans hba (congr b _ _ (congr a x y h))) fun c _ => congr c
  | trans _ _ ih₁ ih₂ => exact hR.trans (ih₁ h) (ih₂ (hR.refl y))

end List
