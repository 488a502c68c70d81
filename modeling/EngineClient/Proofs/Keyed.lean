import EngineClient.Keyed
import Mathlib.Data.String.Basic

/-! Values under names keep each name once and in order, whatever is set or changed. -/

namespace EngineClient

namespace Keyed

variable {α : Type} {entries : Keyed α}

/-- Each name stands once, and the names ascend. -/
def Ascends (entries : Keyed α) : Prop :=
  entries.Pairwise fun one other => one.1 < other.1

/-- A change adds no name but the one that it is made under. -/
theorem mem_update {name : String} {change : Option α → α} {entry : String × α}
    (member : entry ∈ entries.update name change) : entry.1 = name ∨ entry ∈ entries := by
  induction entries with
  | nil =>
    cases List.mem_singleton.mp member
    exact .inl rfl
  | cons first rest ih =>
    obtain ⟨other, held⟩ := first
    rw [update] at member
    split at member
    · -- The new entry stands in front of all others.
      rcases List.mem_cons.mp member with rfl | old
      · exact .inl rfl
      · exact .inr old
    · split at member
      · -- The changed value stands in the place of the old one.
        rcases List.mem_cons.mp member with rfl | old
        · exact .inl rfl
        · exact .inr (List.mem_cons_of_mem _ old)
      · -- The change is made further behind, where the same holds.
        rcases List.mem_cons.mp member with rfl | later
        · exact .inr List.mem_cons_self
        · exact (ih later).imp_right (List.mem_cons_of_mem _)

/-- A change keeps the names in order. -/
theorem Ascends.update (ascends : entries.Ascends) (name : String) (change : Option α → α) :
    (entries.update name change).Ascends := by
  induction entries with
  | nil => exact List.pairwise_singleton _ _
  | cons first rest ih =>
    obtain ⟨other, held⟩ := first
    obtain ⟨lowest, behind⟩ := List.pairwise_cons.mp ascends
    rw [Keyed.update]
    split
    · -- A name before the first one is before all of them.
      rename_i before
      refine List.pairwise_cons.mpr ⟨fun entry member => ?_, ascends⟩
      rcases List.mem_cons.mp member with rfl | later
      · exact before
      · exact lt_trans before (lowest entry later)
    · rename_i reached
      split
      · -- The value under the first name changes, and no name does.
        rename_i same
        cases same
        exact List.pairwise_cons.mpr ⟨lowest, behind⟩
      · -- Behind the first name no name is added but the new one, which is greater as well.
        rename_i different
        refine List.pairwise_cons.mpr ⟨fun entry member => ?_, ih behind⟩
        rcases mem_update member with named | later
        · rw [named]
          exact lt_of_le_of_ne (not_lt.mp reached) (Ne.symm different)
        · exact lowest entry later

/-- Where the names are in order, a name before the first one has no value. -/
theorem Ascends.get?_of_lt {name other : String} {held : α} {rest : Keyed α}
    (ascends : Ascends ((other, held) :: rest)) (before : name < other) :
    get? ((other, held) :: rest) name = none := by
  rw [get?, List.lookup_eq_none_iff]
  intro entry member
  -- What is behind the first name is greater still.
  have later : name < entry.1 := by
    rcases List.mem_cons.mp member with rfl | behind
    · exact before
    · exact lt_trans before ((List.pairwise_cons.mp ascends).1 entry behind)
  exact bne_iff_ne.mpr (ne_of_lt later)

/-- The value under the first name, or one behind it. -/
theorem get?_cons (name other : String) (held : α) (rest : Keyed α) :
    get? ((other, held) :: rest) name = if name = other then some held else rest.get? name := by
  rw [get?, List.lookup_cons]
  -- The first value of the name is the first one, or stands behind it.
  by_cases same : name = other
  · rw [if_pos same, beq_iff_eq.mpr same]
  · rw [if_neg same, beq_eq_false_iff_ne.mpr same]
    rfl

/-- A change of a name leaves the values under all others. -/
theorem Ascends.get?_update (ascends : entries.Ascends) (name other : String)
    (change : Option α → α) :
    (entries.update name change).get? other
      = if other = name then some (change (entries.get? name)) else entries.get? other := by
  induction entries with
  | nil => rw [Keyed.update, get?_cons]; rfl
  | cons first rest ih =>
    obtain ⟨key, held⟩ := first
    rw [Keyed.update]
    split
    · -- In front of the first name there was no value under the new one.
      rename_i before
      rw [get?_cons, ascends.get?_of_lt before]
    · split
      · rename_i same
        cases same
        simp only [get?_cons, if_true]
        split <;> rfl
      · -- The first name is not the new one, so both sides agree on it, and on those behind it.
        rename_i different
        have behind := (List.pairwise_cons.mp ascends).2
        rw [get?_cons, get?_cons, get?_cons, if_neg different, ih behind]
        by_cases first : other = key
        · rw [if_pos first, if_neg (fun same => different (same.symm.trans first)), if_pos first]
        · rw [if_neg first, if_neg first]

/-- A change that adds some to the members of a value adds as many to those of all values. -/
theorem length_flatMap_update {β : Type} (members : α → List β) {change : Option α → α} {more : Nat}
    (adds : ∀ held,
      (members (change held)).length = ((held.map members).getD []).length + more)
    (name : String) (entries : Keyed α) :
    ((entries.update name change).flatMap fun entry => members entry.2).length
      = (entries.flatMap fun entry => members entry.2).length + more := by
  induction entries with
  | nil =>
    have new := adds none
    simpa [update] using new
  | cons first rest ih =>
    obtain ⟨other, held⟩ := first
    rw [update]
    -- One value becomes more, and the others stay as they are.
    split
    · have new := adds none
      simp only [List.flatMap_cons, List.length_append, new, Option.map_none, Option.getD_none,
        List.length_nil]
      omega
    · split
      · have changed := adds (some held)
        simp only [List.flatMap_cons, List.length_append, changed, Option.map_some,
          Option.getD_some]
        omega
      · simp only [List.flatMap_cons, List.length_append, ih]
        omega

/-- Setting a value adds no entry but the one that is set. -/
theorem mem_put {name : String} {value : α} {entry : String × α}
    (member : entry ∈ entries.put name value) : entry = (name, value) ∨ entry ∈ entries := by
  -- The induction is on the entries, past the lower names.
  induction entries with
  | nil => exact .inl (List.mem_singleton.mp member)
  | cons first rest ih =>
    obtain ⟨other, held⟩ := first
    rw [put, update] at member
    -- The new entry stands before the first one, in its place or further behind.
    split at member
    · exact (List.mem_cons.mp member).imp_right fun old => old
    · split at member
      · exact (List.mem_cons.mp member).imp_right (List.mem_cons_of_mem _)
      · rcases List.mem_cons.mp member with rfl | later
        · exact .inr List.mem_cons_self
        · exact (ih later).imp_right (List.mem_cons_of_mem _)

/-- A name behind all others is added at the end. -/
theorem put_of_lt {name : String} (value : α) (before : ∀ entry ∈ entries, entry.1 < name) :
    entries.put name value = entries ++ [(name, value)] := by
  induction entries with
  | nil => rfl
  | cons first rest ih =>
    obtain ⟨other, held⟩ := first
    -- The first entry is lower, so the new one goes behind it.
    obtain ⟨lower, others⟩ := List.forall_mem_cons.mp before
    rw [put, update, if_neg (lt_asymm lower), if_neg (ne_of_gt lower), List.cons_append, ← ih others]
    rfl

/-- Entries that are set in order, with names behind those that are there, are added at the end. -/
theorem foldl_put {more : Keyed α} (ascends : Ascends (entries ++ more)) :
    more.foldl (fun entries pair => entries.put pair.1 pair.2) entries = entries ++ more := by
  induction more generalizing entries with
  | nil => exact (List.append_nil entries).symm
  | cons pair more ih =>
    -- All entries so far are lower than the next one.
    have before : ∀ entry ∈ entries, entry.1 < pair.1 := fun entry member =>
      (List.pairwise_append.mp ascends).2.2 entry member pair List.mem_cons_self
    rw [List.foldl_cons, put_of_lt _ before, ih, List.append_assoc, List.singleton_append]
    rw [List.append_assoc, List.singleton_append]
    exact ascends

/-- The entries of pairs are some of the pairs, with each name once and in order. -/
theorem foldl_put_ascends (pairs : List (String × α)) (ascends : entries.Ascends) :
    Ascends (pairs.foldl (fun entries pair => entries.put pair.1 pair.2) entries) ∧
      ∀ entry ∈ pairs.foldl (fun entries pair => entries.put pair.1 pair.2) entries,
        entry ∈ entries ∨ entry ∈ pairs := by
  -- Each pair that is set keeps the order, and adds no entry but itself.
  induction pairs generalizing entries with
  | nil => exact ⟨ascends, fun entry member => .inl member⟩
  | cons pair pairs ih =>
    have next : Ascends (entries.put pair.1 pair.2) := ascends.update _ _
    obtain ⟨order, origin⟩ := ih next
    refine ⟨order, fun entry member => ?_⟩
    rcases origin entry member with old | later
    · rcases mem_put old with rfl | before
      · exact .inr List.mem_cons_self
      · exact .inl before
    · exact .inr (List.mem_cons_of_mem _ later)

/-- No name comes twice. -/
theorem Ascends.get?_rest {name : String} {held : α} {rest : Keyed α}
    (ascends : Ascends ((name, held) :: rest)) : rest.get? name = none := by
  rw [get?, List.lookup_eq_none_iff]
  intro entry behind
  exact bne_iff_ne.mpr (ne_of_lt ((List.pairwise_cons.mp ascends).1 entry behind))

/-- Values are the same in order if they are the same under each name. -/
theorem Ascends.ext {others : Keyed α} (ascends : entries.Ascends) (ascend : others.Ascends)
    (same : ∀ name, entries.get? name = others.get? name) : entries = others := by
  induction entries generalizing others with
  | nil => cases others with
    | nil => rfl
    | cons other behind =>
      -- A name that one side has would be missing on the other.
      have absurd := same other.1
      rw [get?_cons, if_pos rfl] at absurd
      cases absurd
  | cons first rest ih => cases others with
    | nil =>
      have absurd := same first.1
      rw [get?_cons, if_pos rfl] at absurd
      cases absurd
    | cons other behind =>
      obtain ⟨name, held⟩ := first
      obtain ⟨name', held'⟩ := other
      have one := same name
      have two := same name'
      rw [get?_cons, if_pos rfl] at one
      rw [get?_cons name' name', if_pos rfl] at two
      -- The lower one of two different first names would have no value on the other side.
      rcases lt_trichotomy name name' with before | rfl | after
      · rw [ascend.get?_of_lt before] at one
        cases one
      · rw [get?_cons, if_pos rfl] at one
        cases one
        rw [ih (List.pairwise_cons.mp ascends).2 (List.pairwise_cons.mp ascend).2 fun key => ?_]
        by_cases first : key = name
        · rw [first, ascends.get?_rest, ascend.get?_rest]
        · simpa only [get?_cons, if_neg first] using same key
      · rw [ascends.get?_of_lt after] at two
        cases two

/-- Setting a value keeps the names in order. -/
theorem Ascends.put (ascends : entries.Ascends) (name : String) (value : α) :
    (entries.put name value).Ascends :=
  ascends.update name _

/-- Setting the value of a name leaves the values under all others. -/
theorem Ascends.get?_put (ascends : entries.Ascends) (name other : String) (value : α) :
    (entries.put name value).get? other
      = if other = name then some value else entries.get? other :=
  ascends.get?_update name other _

/-- The entries of pairs are in order. -/
theorem ofPairs_ascends (pairs : List (String × α)) : (ofPairs pairs).Ascends :=
  (foldl_put_ascends pairs List.Pairwise.nil).1

/-- Pairs of other names leave the value under a name. -/
theorem Ascends.get?_foldl_put {name : String} {pairs : List (String × α)}
    (ascends : entries.Ascends) (apart : ∀ pair ∈ pairs, pair.1 ≠ name) :
    get? (pairs.foldl (fun entries pair => entries.put pair.1 pair.2) entries) name
      = entries.get? name := by
  -- The induction is on the pairs, none of which has the name.
  induction pairs generalizing entries with
  | nil => rfl
  | cons pair pairs ih =>
    obtain ⟨other, others⟩ := List.forall_mem_cons.mp apart
    rw [List.foldl_cons, ih (ascends.put _ _) others, ascends.get?_put, if_neg (Ne.symm other)]

/-- Of the values in pairs of one name the last one counts. -/
theorem get?_ofPairs_last {name : String} (value : α) {behind : List (String × α)}
    (before : List (String × α)) (apart : ∀ pair ∈ behind, pair.1 ≠ name) :
    (ofPairs (before ++ (name, value) :: behind)).get? name = some value := by
  have ascends : Ascends (ofPairs before) := ofPairs_ascends before
  rw [ofPairs, List.foldl_append, List.foldl_cons]
  change get? (behind.foldl _ ((ofPairs before).put name value)) name = some value
  rw [Ascends.get?_foldl_put (ascends.put _ _) apart, ascends.get?_put, if_pos rfl]

/-- A name that is in no pair has no value. -/
theorem get?_ofPairs_of_apart {name : String} {pairs : List (String × α)}
    (apart : ∀ pair ∈ pairs, pair.1 ≠ name) : (ofPairs pairs).get? name = none :=
  Ascends.get?_foldl_put List.Pairwise.nil apart

/-- Of pairs of a name there is a last one. -/
theorem exists_last_pair {name : String} {pairs : List (String × α)}
    (named : ∃ pair ∈ pairs, pair.1 = name) :
    ∃ before value behind, pairs = before ++ (name, value) :: behind ∧
      ∀ pair ∈ behind, pair.1 ≠ name := by
  induction pairs with
  | nil => simp at named
  | cons first rest ih =>
    -- The last pair of the name is among the others, or it is the first one.
    by_cases later : ∃ pair ∈ rest, pair.1 = name
    · obtain ⟨before, value, behind, rfl, apart⟩ := ih later
      exact ⟨first :: before, value, behind, rfl, apart⟩
    · push Not at later
      obtain ⟨pair, member, rfl⟩ := named
      rcases List.mem_cons.mp member with rfl | behind
      · exact ⟨[], pair.2, rest, rfl, later⟩
      · exact absurd rfl (later pair behind)

/-- Pairs of the same names come to the same if the last of each name have the same value. -/
theorem ofPairs_congr {pairs others : List (String × α)}
    (names : pairs.map Prod.fst = others.map Prod.fst)
    (last : ∀ before name value behind, pairs = before ++ (name, value) :: behind →
      (∀ pair ∈ behind, pair.1 ≠ name) → (ofPairs others).get? name = some value) :
    ofPairs pairs = ofPairs others := by
  refine Ascends.ext (ofPairs_ascends pairs) (ofPairs_ascends others) fun name => ?_
  by_cases named : ∃ pair ∈ pairs, pair.1 = name
  · obtain ⟨before, value, behind, rfl, apart⟩ := exists_last_pair named
    rw [get?_ofPairs_last value before apart, last _ name value behind rfl apart]
  · push Not at named
    rw [get?_ofPairs_of_apart named, get?_ofPairs_of_apart fun pair member same => ?_]
    -- The name would be one of those on the other side as well.
    have among : name ∈ pairs.map Prod.fst := names ▸ List.mem_map.mpr ⟨pair, member, same⟩
    obtain ⟨held, holds, same⟩ := List.mem_map.mp among
    exact named held holds same

end Keyed

end EngineClient
