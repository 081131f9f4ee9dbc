import Runlet.Library.Table

/-!
# A table and a list that tell of each other

`Covers R t l`: every row of the table is told by an entry of the list, and every entry tells of a
row.  It is how a table is compared with a record that was kept beside it, in whatever order the
rows are stored: a row and its entry are added together (`Covers.insert`), and an update of rows is
an update of entries when it keeps the relation (`Covers.update`).
-/

namespace KeyedTable

namespace Table

variable {κ α β : Type*} [Keyed κ α] {R R' : α → β → Prop} {t : Table α} {l : List β}

structure Covers (R : α → β → Prop) (t : Table α) (l : List β) : Prop where
  told : ∀ a ∈ t, ∃ b ∈ l, R a b
  tells : ∀ b ∈ l, ∃ a ∈ t, R a b

namespace Covers

theorem empty : Covers R (.empty : Table α) [] where
  told a ha := absurd ha (notMem_empty a)
  tells _ hb := absurd hb List.not_mem_nil

theorem mono (h : Covers R t l) (hR : ∀ a ∈ t, ∀ b ∈ l, R a b → R' a b) : Covers R' t l where
  told a ha := by
    obtain ⟨b, hb, hab⟩ := h.told a ha
    exact ⟨b, hb, hR a ha b hb hab⟩
  tells b hb := by
    obtain ⟨a, ha, hab⟩ := h.tells b hb
    exact ⟨a, ha, hR a ha b hb hab⟩

/-- An update of the entries alone. -/
theorem map (h : Covers R t l) {g : β → β} (hR : ∀ a ∈ t, ∀ b ∈ l, R a b → R' a (g b)) :
    Covers R' t (l.map g) where
  told a ha := by
    obtain ⟨b, hb, hab⟩ := h.told a ha
    exact ⟨g b, List.mem_map_of_mem hb, hR a ha b hb hab⟩
  tells b hb := by
    obtain ⟨b', hb', rfl⟩ := List.mem_map.mp hb
    obtain ⟨a, ha, hab⟩ := h.tells b' hb'
    exact ⟨a, ha, hR a ha b' hb' hab⟩

theorem insert (h : Covers R t l) {source : KeySource κ} {mk : κ → α}
    (hmk : ∀ k, key (mk k) = k) {b : β} (hb : R (mk (t.nextKey source)) b) :
    Covers R (t.insert source mk hmk) (l ++ [b]) where
  told a ha := by
    rcases mem_insert.mp ha with ha | rfl
    · obtain ⟨c, hc, hac⟩ := h.told a ha
      exact ⟨c, List.mem_append_left _ hc, hac⟩
    · exact ⟨b, List.mem_append_right _ List.mem_cons_self, hb⟩
  tells c hc := by
    rcases List.mem_append.mp hc with hc | hc
    · obtain ⟨a, ha, hac⟩ := h.tells c hc
      exact ⟨a, mem_insert_of_mem ha, hac⟩
    · rw [List.mem_singleton.mp hc]
      exact ⟨_, mem_insert_self, hb⟩

theorem update (h : Covers R t l) {p : α → Bool} {f : α → α} (hf : ∀ a, key (f a) = key a)
    {g : β → β} (hR : ∀ a ∈ t, ∀ b ∈ l, R a b → R' (rewrite p f a) (g b)) :
    Covers R' (t.update p f hf) (l.map g) where
  told a ha := by
    obtain ⟨a', ha', rfl⟩ := mem_update.mp ha
    obtain ⟨b, hb, hab⟩ := h.told a' ha'
    exact ⟨g b, List.mem_map_of_mem hb, hR a' ha' b hb hab⟩
  tells b hb := by
    obtain ⟨b', hb', rfl⟩ := List.mem_map.mp hb
    obtain ⟨a, ha, hab⟩ := h.tells b' hb'
    exact ⟨rewrite p f a, rewrite_mem_update ha, hR a ha b' hb' hab⟩

end Covers

end Table

end KeyedTable
