import Abacus.Sessions
import Mathlib.Logic.Function.Basic

/-!
# Session map — sessions looked up by their ids

Sessions are a map from ids to screens.  One equation for each operation says what it does to the map,
and a source of ids that never repeats one gives no id out again:

* `Sessions.get?_create`, `Sessions.get?_put`, `Sessions.get?_delete` — the map after an operation;
* `Sessions.Spent` — an id that is not given out from now on;
* `Sessions.spent_nextId_create` — after a creation, its id is spent;
* `Sessions.numbered_injective` — numbers do not repeat.
-/

namespace Abacus

namespace Sessions

variable {s next : Sessions} {id other : String} {screen : Screen}

/-! ## The map after an operation -/

theorem lookup_cons_of_ne (h : other ≠ id) (live : List (String × Screen)) :
    ((id, screen) :: live).lookup other = live.lookup other := by
  have hne : (other == id) = false := beq_eq_false_iff_ne.2 h
  simp only [List.lookup_cons, hne]

theorem lookup_filter_ne (live : List (String × Screen)) (id other : String) :
    (live.filter fun entry => entry.1 ≠ id).lookup other =
      if other = id then none else live.lookup other := by
  induction live with
  | nil =>
      simp
  | cons entry live ih =>
      obtain ⟨key, old⟩ := entry
      by_cases hkey : key = id
      · subst hkey
        rw [List.filter_cons_of_neg (by simp), ih]
        by_cases hother : other = key
        · simp [hother]
        · rw [lookup_cons_of_ne hother]
      · rw [List.filter_cons_of_pos (by simpa using hkey)]
        by_cases hother : other = key
        · subst hother
          simp [hkey]
        · rw [lookup_cons_of_ne hother, lookup_cons_of_ne hother, ih]

theorem get?_create (setup : Setup) (s : Sessions) (id : String) :
    (s.create setup).get? id = if id = s.nextId then some (Screen.blank setup) else s.get? id := by
  unfold get? create
  by_cases hid : id = s.nextId
  · simp [hid]
  · rw [if_neg hid, lookup_cons_of_ne hid, lookup_filter_ne, if_neg hid]

theorem get?_put (s : Sessions) (id : String) (screen : Screen) (other : String) :
    (s.put id screen).get? other =
      if other = id then (s.get? id).map fun _ => screen else s.get? other := by
  unfold get? put
  induction s.live with
  | nil =>
      simp
  | cons entry live ih =>
      obtain ⟨key, old⟩ := entry
      rw [List.map_cons]
      by_cases hkey : key = id
      · -- The entry itself is replaced.
        subst hkey
        by_cases hother : other = key
        · simp [hother]
        · rw [if_pos rfl, lookup_cons_of_ne hother, lookup_cons_of_ne hother, ih]
          simp [hother]
      · rw [if_neg hkey, lookup_cons_of_ne (Ne.symm hkey)]
        by_cases hother : other = key
        · subst hother
          simp [hkey]
        · rw [lookup_cons_of_ne hother, lookup_cons_of_ne hother, ih]

theorem put_put (s : Sessions) (id : String) (screen again : Screen) :
    (s.put id screen).put id again = s.put id again := by
  unfold put
  rw [List.map_map]
  congr 2
  funext entry
  by_cases hid : entry.1 = id
  · simp [hid]
  · simp [hid]

theorem get?_delete (h : s.delete id = .ok next) (other : String) :
    next.get? other = if other = id then none else s.get? other := by
  unfold delete at h
  split at h
  · cases h
    exact lookup_filter_ne s.live id other
  · cases h

/-! ## Refusals -/

theorem get_of_live (h : s.get? id = some screen) : s.get id = .ok screen := by
  simp [get, h]

theorem get_of_missing (h : s.get? id = none) : s.get id = .error ⟨id⟩ := by
  simp [get, h]

theorem delete_of_missing (h : s.get? id = none) : s.delete id = .error ⟨id⟩ := by
  simp [delete, h]

theorem exists_delete_of_live (h : s.get? id = some screen) :
    ∃ next, s.delete id = .ok next ∧ next.ids = s.ids ∧ next.created = s.created := by
  refine ⟨⟨s.ids, s.created, s.live.filter fun entry => entry.1 ≠ id⟩, ?_, rfl, rfl⟩
  simp [delete, h]

/-! ## Ids -/

theorem numbered_injective : Function.Injective numbered := by
  intro m n h
  have hdigits : Nat.toDigits 10 (m + 1) = Nat.toDigits 10 (n + 1) := by
    have hlists := congrArg String.toList h
    simpa [numbered, ToString.toString, Nat.repr] using hlists
  have hsucc : m + 1 = n + 1 :=
    calc
      m + 1 = Nat.ofDigitChars 10 (Nat.toDigits 10 (m + 1)) 0 := Nat.ofDigitChars_ten_toDigits.symm
      _ = Nat.ofDigitChars 10 (Nat.toDigits 10 (n + 1)) 0 := by rw [hdigits]
      _ = n + 1 := Nat.ofDigitChars_ten_toDigits
  exact Nat.succ.inj hsucc

/-- The id is not given out from now on. -/
def Spent (s : Sessions) (id : String) : Prop := ∀ n, s.created ≤ n → s.ids n ≠ id

theorem Spent.ne_nextId (h : s.Spent id) : id ≠ s.nextId := fun hid =>
  h s.created (Nat.le_refl _) hid.symm

/-- A source that does not repeat ids spends the one that it gives out. -/
theorem spent_nextId_create (hids : Function.Injective s.ids) (setup : Setup) :
    (s.create setup).Spent s.nextId := by
  intro n hn hid
  have hsame : n = s.created := hids hid
  exact Nat.not_succ_le_self _ (hsame ▸ hn)

/-- Spent ids remain so while the source stays the same and creations only add up. -/
theorem Spent.mono {t : Sessions} (h : s.Spent id) (hids : t.ids = s.ids)
    (hcreated : s.created ≤ t.created) : t.Spent id := by
  intro n hn
  rw [hids]
  exact h n (Nat.le_trans hcreated hn)

end Sessions

end Abacus
