import Mathlib.Data.List.Nodup
import SpeechProbe.Json.Typed
import SpeechProbe.Proofs.Except

/-!
# What the members of an object mean

The readers of `Json.Typed` say what a value is and, when it is not that, what is wrong with
it.  Here is the first half without the second: a *meaning* is a relation between JSON values
and data, and `ReadBy` says that a reader accepts exactly the values with a meaning.  A member
may be required, have a default, or be null; each of the three is a relation of its own, and
the readers of members are shown to decide them.

Members are looked up by name, and of repeated ones the last counts.  So an object means the
same when its members come in another order, or others come between them, as long as those of
one name keep theirs (`Rearranges`).
-/

namespace SpeechProbe

namespace Json

/-! ## Looking up a name -/

theorem last?_eq_getLast? (name : String) (members : List (String × Json)) :
    last? name members = (members.filter (·.1 == name)).getLast?.map Prod.snd := by
  induction members with
  | nil => rfl
  | cons member rest ih =>
    obtain ⟨key, value⟩ := member
    rw [last?, ih, List.filter_cons]
    rcases hrest : (rest.filter (·.1 == name)).getLast? with _ | found
    · have hnil : rest.filter (·.1 == name) = [] := List.getLast?_eq_none_iff.mp hrest
      by_cases hkey : key = name <;> simp [hkey, hnil]
    · by_cases hkey : key = name <;> simp [hkey, hrest, List.getLast?_cons]

/-- Members `later` are those of `earlier`, and others whose names are not looked at, in any
order.  Only where a name is repeated does it matter that members of one name keep theirs. -/
structure Rearranges (names : List String) (earlier added later : List (String × Json)) :
    Prop where
  perm : (earlier ++ added).Perm later
  unnamed : ∀ member ∈ added, member.1 ∉ names
  order : (earlier.map Prod.fst).Nodup ∨
    ∀ name ∈ names, earlier.filter (·.1 == name) = later.filter (·.1 == name)

namespace Rearranges

variable {names : List String} {earlier added later : List (String × Json)} {name : String}

/-- Where no name is repeated, a name is left with the same members whatever the order. -/
theorem filter_eq_of_nodup (h : Rearranges names earlier added later) (hname : name ∈ names)
    (hnodup : (earlier.map Prod.fst).Nodup) :
    earlier.filter (·.1 == name) = later.filter (·.1 == name) := by
  have hnone : added.filter (·.1 == name) = [] := by
    rw [List.filter_eq_nil_iff]
    intro member hmember heq
    exact h.unnamed member hmember (beq_iff_eq.mp heq ▸ hname)
  have hperm : (earlier.filter (·.1 == name)).Perm (later.filter (·.1 == name)) := by
    have hfilter := h.perm.filter (·.1 == name)
    rwa [List.filter_append, hnone, List.append_nil] at hfilter
  have hle : (earlier.filter (·.1 == name)).length ≤ 1 := by
    have hcount := List.nodup_iff_count_le_one.mp hnodup name
    rwa [List.count_eq_countP, List.countP_map, List.countP_eq_length_filter] at hcount
  -- A list of at most one member has no other order.
  rcases hlist : earlier.filter (·.1 == name) with _ | ⟨member, _ | ⟨member', rest⟩⟩
  · rw [hlist] at hperm ⊢
    exact hperm.nil_eq
  · rw [hlist] at hperm ⊢
    exact List.singleton_perm.mp hperm
  · rw [hlist] at hle
    simp at hle

theorem last?_eq (h : Rearranges names earlier added later) (hname : name ∈ names) :
    last? name earlier = last? name later := by
  have hfilter : earlier.filter (·.1 == name) = later.filter (·.1 == name) := by
    rcases h.order with hnodup | hkept
    · exact h.filter_eq_of_nodup hname hnodup
    · exact hkept name hname
  rw [last?_eq_getLast?, last?_eq_getLast?, hfilter]

end Rearranges

/-! ## Meanings -/

variable {α : Type}

/-- A text means its characters. -/
inductive IsText : Json → String → Prop where
  | str (text : String) : IsText (.str text) text

inductive IsFlag : Json → Bool → Prop where
  | bool (flag : Bool) : IsFlag (.bool flag) flag

/-- A signed integer of 64 bits. -/
inductive IsInt64 : Json → Int → Prop where
  | int {i : Int} (low : -9223372036854775808 ≤ i) (high : i < 9223372036854775808) :
      IsInt64 (.int i) i

/-- An unsigned integer of 32 bits. -/
inductive IsUInt32 : Json → UInt32 → Prop where
  | int (n : UInt32) : IsUInt32 (.int n.toNat) n

/-- Any number means the 32-bit float nearest to it. -/
inductive IsNumber : Json → Single → Prop where
  | int (i : Int) : IsNumber (.int i) (Single.ofRat i)
  | real (x : Double) : IsNumber (.real x) x.toSingle
  | single (x : Single) : IsNumber (.single x) x

/-- A reader accepts exactly the values with a meaning, and null has none. -/
structure ReadBy (Means : Json → α → Prop) (read : Json → Except Mismatch α) : Prop where
  eq_ok : ∀ value a, read value = .ok a ↔ Means value a
  null : ∀ a, ¬ Means .null a

theorem readBy_text : ReadBy IsText asText where
  eq_ok value a := by
    constructor
    · intro h
      cases value <;> simp_all [asText]
      exact .str _
    · rintro ⟨⟩
      rfl
  null := nofun

theorem readBy_flag : ReadBy IsFlag asFlag where
  eq_ok value a := by
    constructor
    · intro h
      cases value <;> simp_all [asFlag]
      exact .bool _
    · rintro ⟨⟩
      rfl
  null := nofun

theorem readBy_int64 : ReadBy IsInt64 asInt64 where
  eq_ok value a := by
    constructor
    · intro h
      cases value with
      | int i =>
        simp only [asInt64] at h
        split at h
        · rename_i hrange
          cases h
          exact .int (by omega) (by omega)
        · simp at h
      | _ => simp [asInt64] at h
    · rintro ⟨low, high⟩
      rw [asInt64, if_pos (by omega)]
  null := nofun

theorem readBy_uint32 : ReadBy IsUInt32 asUInt32 where
  eq_ok value a := by
    constructor
    · intro h
      cases value with
      | int i =>
        simp only [asUInt32] at h
        split at h
        · rename_i hrange
          cases h
          have hnat : (UInt32.ofNat i.toNat).toNat = i.toNat :=
            UInt32.toNat_ofNat_of_lt' (by simp only [UInt32.size]; omega)
          have hint : i = ((UInt32.ofNat i.toNat).toNat : Int) := by omega
          have hmeans := IsUInt32.int (UInt32.ofNat i.toNat)
          rwa [← hint] at hmeans
        · simp at h
      | _ => simp [asUInt32] at h
    · rintro ⟨⟩
      have hlt := a.toNat_lt
      rw [asUInt32, if_pos (by omega), Int.toNat_natCast, UInt32.ofNat_toNat]
  null := nofun

theorem readBy_number : ReadBy IsNumber asSingle where
  eq_ok value a := by
    constructor
    · intro h
      cases value <;> simp_all [asSingle] <;> subst h
      · exact .int _
      · exact .real _
      · exact .single _
    · rintro (_ | _ | _) <;> rfl
  null := nofun

/-! ## Members by name -/

/-- A member that may be absent. -/
inductive Given (Means : Json → α → Prop) : Option Json → Option α → Prop where
  | absent : Given Means none none
  | present {value : Json} {a : α} (means : Means value a) : Given Means (some value) (some a)

/-- A member that has to be there. -/
inductive Required (Means : Json → α → Prop) : Option Json → α → Prop where
  | present {value : Json} {a : α} (means : Means value a) : Required Means (some value) a

/-- A member with a value of its own where it is absent. -/
inductive Defaulted (default : α) (Means : Json → α → Prop) : Option Json → α → Prop where
  | absent : Defaulted default Means none default
  | present {value : Json} {a : α} (means : Means value a) :
      Defaulted default Means (some value) a

/-- A member that may be absent or null. -/
inductive Nullable (Means : Json → α → Prop) : Option Json → Option α → Prop where
  | absent : Nullable Means none none
  | null : Nullable Means (some .null) none
  | present {value : Json} {a : α} (means : Means value a) :
      Nullable Means (some value) (some a)

section Readers

variable {Means : Json → α → Prop} {read : Json → Except Mismatch α} {member : Option Json}
  {members : List (String × Json)} {name : String}

theorem given_some_iff {a : α} : Given Means member (some a) ↔ Required Means member a := by
  constructor
  · rintro ⟨⟩
    exact .present ‹_›
  · rintro ⟨⟩
    exact .present ‹_›

theorem defaulted_iff {default a : α} :
    Defaulted default Means member a ↔ ∃ found, Given Means member found ∧
      found.getD default = a := by
  constructor
  · rintro (_ | means)
    · exact ⟨none, .absent, rfl⟩
    · exact ⟨some a, .present means, rfl⟩
  · rintro ⟨found, _ | means, rfl⟩
    · exact .absent
    · exact .present means

theorem field?_eq_ok (hread : ReadBy Means read) {found : Option α} :
    field? members name read = .ok found ↔ Given Means (last? name members) found := by
  rw [field?]
  cases last? name members with
  | none =>
    constructor
    · rintro ⟨⟩
      exact .absent
    · rintro ⟨⟩
      rfl
  | some value =>
    rw [Except.map_eq_ok]
    constructor
    · rintro ⟨a, ha, rfl⟩
      exact .present ((hread.eq_ok value a).mp ha)
    · rintro ⟨⟩
      exact ⟨_, (hread.eq_ok value _).mpr ‹_›, rfl⟩

theorem orNull_eq_ok (hread : ReadBy Means read) {value : Json} {found : Option α} :
    orNull read value = .ok found ↔ Nullable Means (some value) found := by
  by_cases hnull : value = .null
  · subst hnull
    constructor
    · rintro ⟨⟩
      exact .null
    · rintro (_ | _ | means)
      · rfl
      · exact absurd means (hread.null _)
  · rw [orNull.eq_2 _ _ hnull, Except.map_eq_ok]
    constructor
    · rintro ⟨a, ha, rfl⟩
      exact .present ((hread.eq_ok value a).mp ha)
    · rintro (_ | _ | means)
      · exact absurd rfl hnull
      · exact ⟨_, (hread.eq_ok value _).mpr means, rfl⟩

theorem optional_eq_ok (hread : ReadBy Means read) {found : Option α} :
    optional members name read = .ok found ↔ Nullable Means (last? name members) found := by
  rw [optional, field?]
  cases last? name members with
  | none =>
    constructor
    · rintro ⟨⟩
      exact .absent
    · rintro ⟨⟩
      rfl
  | some value =>
    rw [Except.map_eq_ok]
    constructor
    · rintro ⟨outer, houter, rfl⟩
      obtain ⟨inner, hinner, rfl⟩ := Except.map_eq_ok.mp houter
      exact (orNull_eq_ok hread).mp hinner
    · intro h
      exact ⟨some found, Except.map_eq_ok.mpr ⟨found, (orNull_eq_ok hread).mpr h, rfl⟩, rfl⟩

theorem present_eq_ok {found : Option α} {a : α} : present name found = .ok a ↔ found = some a := by
  cases found <;> simp [present]

end Readers
end Json
end SpeechProbe
