import SpeechProbe.Proofs.Json.Numbers
import SpeechProbe.Proofs.Json.Strings

/-!
# Values there and back

What is written of a value is read as that value, but for 32-bit numbers: a finite one is read
as a 64-bit number and any other as `null` (`parse?_render`).  That holds of values whose
integers the reader has room for, with no more containers inside one another than it opens
(`Fits`); 64-bit floats are left out.  The proof follows the nesting: if every item of a container
is read back whatever comes after it, the container is (`itemsAfter_append`,
`membersAfter_append`), and a piece of text needs no more fuel than it has characters.
-/

namespace SpeechProbe.Json

/-- A value that can be written and read back with at most `depth` containers inside one
another. -/
inductive Fits : Nat → Json → Prop where
  | null {depth : Nat} : Fits depth .null
  | bool {depth : Nat} (b : Bool) : Fits depth (.bool b)
  | int {depth : Nat} {i : Int} (low : -2 ^ 63 ≤ i) (high : i < 2 ^ 64) : Fits depth (.int i)
  | single {depth : Nat} (x : Single) : Fits depth (.single x)
  | str {depth : Nat} (text : String) : Fits depth (.str text)
  | arr {depth : Nat} {items : List Json} (items_fit : ∀ item ∈ items, Fits depth item) :
      Fits (depth + 1) (.arr items)
  | obj {depth : Nat} {members : List (String × Json)}
      (members_fit : ∀ member ∈ members, Fits depth member.2) : Fits (depth + 1) (.obj members)

mutual

/-- A value as it is read back. -/
def reread : Json → Json
  | .single x => if x.isFinite then .real (rereadSingle x) else .null
  | .arr items => .arr (rereadItems items)
  | .obj members => .obj (rereadMembers members)
  | value => value

def rereadItems : List Json → List Json
  | [] => []
  | item :: items => reread item :: rereadItems items

def rereadMembers : List (String × Json) → List (String × Json)
  | [] => []
  | (name, value) :: members => (name, reread value) :: rereadMembers members

end

/-! ## One value -/

/-- What is written of a value is read back whatever comes after it. -/
def ReadBack (depth : Nat) (v : Json) : Prop :=
  ∀ fuel rest, (chars v).length ≤ fuel → EndsNumber rest →
    value fuel depth (chars v ++ rest) = some (reread v, rest)

theorem skipSpace_cons {c : Char} (h : isSpace c = false) (rest : List Char) :
    skipSpace (c :: rest) = c :: rest := by
  simp [skipSpace, h]

theorem StartsNumber.isSpace_eq_false {c : Char} (h : StartsNumber c) : isSpace c = false := by
  rcases h with rfl | hdigit
  · decide
  · rw [Bool.eq_false_iff]
    intro hspace
    simp only [isSpace, Bool.or_eq_true, beq_iff_eq] at hspace
    rcases hspace with ((rfl | rfl) | rfl) | rfl <;> simp at hdigit

/-- A value that begins like a number is one. -/
theorem value_of_startsNumber {c : Char} (h : StartsNumber c) (fuel depth : Nat)
    (rest : List Char) : value (fuel + 1) depth (c :: rest) = number (c :: rest) := by
  rw [value, skipSpace_cons h.isSpace_eq_false]
  split
  case h_7 => rfl
  all_goals
    rename_i hhead
    rw [(List.cons.inj hhead).1] at h
    simp [StartsNumber] at h

theorem value_quote (fuel depth : Nat) (rest : List Char) :
    value (fuel + 1) depth ('"' :: rest) =
      (string rest).map fun (text, left) => ((text.map Json.str).getD .unread, left) := by
  rw [value]
  rfl

theorem value_stringChars (fuel depth : Nat) (text : String) (rest : List Char) :
    value (fuel + 1) depth (stringChars text ++ rest) = some (.str text, rest) := by
  rw [stringChars_append, value_quote, string_append]
  rfl

/-- What is written of a value begins with a character that is neither a blank nor an end. -/
theorem exists_chars_eq_cons {depth : Nat} {v : Json} (h : Fits depth v) :
    ∃ c more, chars v = c :: more ∧ isSpace c = false ∧ c ≠ ']' := by
  have hnumber {text : List Char} (hstarts : ∃ c more, text = c :: more ∧ StartsNumber c) :
      ∃ c more, text = c :: more ∧ isSpace c = false ∧ c ≠ ']' := by
    obtain ⟨c, more, htext, hc⟩ := hstarts
    refine ⟨c, more, htext, hc.isSpace_eq_false, ?_⟩
    rintro rfl
    simp [StartsNumber] at hc
  cases h with
  | null => exact ⟨'n', _, by rw [chars], by decide, by decide⟩
  | bool b =>
    cases b
    · exact ⟨'f', _, by rw [chars], by decide, by decide⟩
    · exact ⟨'t', _, by rw [chars], by decide, by decide⟩
  | int low high =>
    rw [chars]
    exact hnumber (Decimal.exists_ofInt_eq_cons _)
  | single x =>
    rw [chars]
    by_cases hfinite : x.isFinite = true
    · exact hnumber (exists_singleChars_eq_cons hfinite)
    · rw [singleChars, if_neg hfinite]
      exact ⟨'n', _, rfl, by decide, by decide⟩
  | str text => exact ⟨'"', _, by rw [chars, stringChars, List.cons_append], by decide, by decide⟩
  | @arr depth items items_fit =>
    cases items
    · exact ⟨'[', _, by rw [chars], by decide, by decide⟩
    · exact ⟨'[', _, by rw [chars], by decide, by decide⟩
  | @obj depth members members_fit =>
    cases members
    · exact ⟨'{', _, by rw [chars], by decide, by decide⟩
    · exact ⟨'{', _, by rw [chars], by decide, by decide⟩

/-! ## Lists of values -/

variable {depth : Nat}

theorem endsNumber_cons {c : Char} (h : c = ',' ∨ c = ']' ∨ c = '}') (rest : List Char) :
    EndsNumber (c :: rest) := by
  intro d hd
  obtain rfl : c = d := Option.some.inj hd
  rcases h with rfl | rfl | rfl <;> decide

theorem endsNumber_itemsChars (items : List Json) (rest : List Char) :
    EndsNumber (itemsChars items ++ rest) := by
  cases items <;> exact endsNumber_cons (by simp) _

theorem endsNumber_membersChars (members : List (String × Json)) (rest : List Char) :
    EndsNumber (membersChars members ++ rest) := by
  cases members <;> exact endsNumber_cons (by simp) _

theorem itemsAfter_comma (fuel : Nat) (rest : List Char) :
    itemsAfter (fuel + 1) depth (',' :: rest) =
      match value fuel depth rest with
      | none => none
      | some (item, rest) =>
        (itemsAfter fuel depth rest).map fun (items, left) => (item :: items, left) := by
  rw [itemsAfter]
  rfl

theorem itemsAfter_append {items : List Json} (h : ∀ item ∈ items, ReadBack depth item)
    {fuel : Nat} (hfuel : (itemsChars items).length ≤ fuel) (rest : List Char) :
    itemsAfter fuel depth (itemsChars items ++ rest) = some (rereadItems items, rest) := by
  induction items generalizing fuel with
  | nil =>
    obtain ⟨fuel, rfl⟩ := Nat.exists_eq_succ_of_ne_zero (Nat.ne_of_gt hfuel)
    rw [itemsAfter]
    rfl
  | cons item items ih =>
    simp only [itemsChars, List.length_cons, List.length_append] at hfuel
    obtain ⟨fuel, rfl⟩ := Nat.exists_eq_add_of_le' (show 1 ≤ fuel by omega)
    have hitem := h item List.mem_cons_self fuel _ (by omega) (endsNumber_itemsChars items rest)
    have hitems : itemsAfter fuel depth (itemsChars items ++ rest) = _ :=
      ih (fun other hmem => h other (List.mem_cons_of_mem item hmem)) (by omega)
    rw [itemsChars, List.cons_append, List.append_assoc, itemsAfter_comma, hitem]
    dsimp only
    rw [hitems]
    rfl

theorem member_quote (fuel : Nat) (rest : List Char) :
    member (fuel + 1) depth ('"' :: rest) =
      match string rest with
      | none => none
      | some (name, rest) =>
        match skipSpace rest with
        | ':' :: rest => (value fuel depth rest).map fun (found, left) => ((name, found), left)
        | _ => none := by
  rw [member]
  rfl

theorem member_stringChars (fuel : Nat) (name : String) (rest : List Char) :
    member (fuel + 1) depth (stringChars name ++ ':' :: rest) =
      (value fuel depth rest).map fun (found, left) => ((some name, found), left) := by
  rw [stringChars_append, member_quote, string_append]
  rfl

theorem member_append {name : String} {v : Json} (h : ReadBack depth v) {fuel : Nat}
    (hfuel : (stringChars name ++ ':' :: chars v).length ≤ fuel) {rest : List Char}
    (hrest : EndsNumber rest) :
    member fuel depth (stringChars name ++ ':' :: (chars v ++ rest)) =
      some ((some name, reread v), rest) := by
  simp only [List.length_append, List.length_cons] at hfuel
  obtain ⟨fuel, rfl⟩ := Nat.exists_eq_add_of_le' (show 1 ≤ fuel by omega)
  rw [member_stringChars, h fuel rest (by omega) hrest]
  rfl

theorem membersAfter_comma (fuel : Nat) (rest : List Char) :
    membersAfter (fuel + 1) depth (',' :: rest) =
      match member fuel depth rest with
      | none => none
      | some (first, rest) =>
        (membersAfter fuel depth rest).map fun (members, left) => (first :: members, left) := by
  rw [membersAfter]
  rfl

theorem membersAfter_append {members : List (String × Json)}
    (h : ∀ member ∈ members, ReadBack depth member.2) {fuel : Nat}
    (hfuel : (membersChars members).length ≤ fuel) (rest : List Char) :
    membersAfter fuel depth (membersChars members ++ rest) =
      some ((rereadMembers members).map fun (name, v) => (some name, v), rest) := by
  induction members generalizing fuel with
  | nil =>
    obtain ⟨fuel, rfl⟩ := Nat.exists_eq_succ_of_ne_zero (Nat.ne_of_gt hfuel)
    rw [membersAfter]
    rfl
  | cons first members ih =>
    obtain ⟨name, v⟩ := first
    simp only [membersChars, List.length_cons, List.length_append] at hfuel
    obtain ⟨fuel, rfl⟩ := Nat.exists_eq_add_of_le' (show 1 ≤ fuel by omega)
    have hlength : (stringChars name ++ ':' :: chars v).length ≤ fuel := by
      simp only [List.length_append, List.length_cons]
      omega
    have hread : ReadBack depth v := h (name, v) List.mem_cons_self
    have hmember := member_append hread hlength (endsNumber_membersChars members rest)
    have hmembers : membersAfter fuel depth (membersChars members ++ rest) = _ :=
      ih (fun other hmem => h other (List.mem_cons_of_mem _ hmem)) (by omega)
    rw [membersChars, List.cons_append, List.append_assoc, List.cons_append, List.append_assoc,
      membersAfter_comma, hmember]
    dsimp only
    rw [hmembers]
    rfl

theorem mapM_named (members : List (String × Json)) :
    (members.map fun (name, v) => (some name, v)).mapM
      (fun ((name, v) : Option String × Json) => name.map (·, v)) = some members := by
  induction members with
  | nil => rfl
  | cons first members ih =>
    simp only [List.map_cons, List.mapM_cons, ih]
    rfl

theorem ofNamed_map (members : List (String × Json)) :
    ofNamed (members.map fun (name, v) => (some name, v)) = .obj members := by
  rw [ofNamed, mapM_named]

/-! ## All values -/

/-- What begins like a number is read as one. -/
theorem value_append_of_startsNumber {text : List Char}
    (hstarts : ∃ c more, text = c :: more ∧ StartsNumber c) {fuel : Nat}
    (hfuel : text.length ≤ fuel) (rest : List Char) :
    value fuel depth (text ++ rest) = number (text ++ rest) := by
  obtain ⟨c, more, rfl, hc⟩ := hstarts
  rw [List.length_cons] at hfuel
  obtain ⟨fuel, rfl⟩ := Nat.exists_eq_add_of_le' (show 1 ≤ fuel by omega)
  exact value_of_startsNumber hc fuel depth (more ++ rest)

theorem value_bracket_skipSpace (fuel : Nat) (rest : List Char) :
    value (fuel + 1) (depth + 1) ('[' :: rest) =
      match skipSpace rest with
      | ']' :: left => some (.arr [], left)
      | rest =>
        match value fuel depth rest with
        | none => none
        | some (item, rest) =>
          (itemsAfter fuel depth rest).map fun (items, left) => (.arr (item :: items), left) := by
  rw [value]
  rfl

theorem value_bracket {c : Char} (hspace : isSpace c = false) (hend : c ≠ ']') (fuel : Nat)
    (rest : List Char) :
    value (fuel + 1) (depth + 1) ('[' :: c :: rest) =
      match value fuel depth (c :: rest) with
      | none => none
      | some (item, rest) =>
        (itemsAfter fuel depth rest).map fun (items, left) => (.arr (item :: items), left) := by
  rw [value_bracket_skipSpace, skipSpace_cons hspace]
  split
  · rename_i hhead
    exact absurd (List.cons.inj hhead).1 hend
  · rfl

theorem value_brace (fuel : Nat) (rest : List Char) :
    value (fuel + 1) (depth + 1) ('{' :: '"' :: rest) =
      match member fuel depth ('"' :: rest) with
      | none => none
      | some (first, rest) =>
        (membersAfter fuel depth rest).map fun (members, left) =>
          (ofNamed (first :: members), left) := by
  rw [value]
  rfl

theorem readBack_arr {items : List Json} (hfit : ∀ item ∈ items, Fits depth item)
    (h : ∀ item ∈ items, ReadBack depth item) : ReadBack (depth + 1) (.arr items) := by
  intro fuel rest hfuel hrest
  cases items with
  | nil =>
    rw [chars] at hfuel ⊢
    obtain ⟨fuel, rfl⟩ := Nat.exists_eq_add_of_le' (show 1 ≤ fuel from Nat.le_of_succ_le hfuel)
    rw [List.cons_append, value]
    rfl
  | cons item items =>
    rw [chars] at hfuel ⊢
    simp only [List.length_cons, List.length_append] at hfuel
    obtain ⟨fuel, rfl⟩ := Nat.exists_eq_add_of_le' (show 1 ≤ fuel by omega)
    have hitem := h item List.mem_cons_self fuel _ (by omega) (endsNumber_itemsChars items rest)
    have hitems : itemsAfter fuel depth (itemsChars items ++ rest) = _ :=
      itemsAfter_append (fun other hmem => h other (List.mem_cons_of_mem item hmem)) (by omega) rest
    obtain ⟨c, more, hchars, hspace, hend⟩ :=
      exists_chars_eq_cons (hfit item List.mem_cons_self)
    rw [hchars, List.cons_append] at hitem
    rw [List.cons_append, List.append_assoc, hchars, List.cons_append,
      value_bracket hspace hend, hitem]
    dsimp only
    rw [hitems]
    rfl

theorem readBack_obj {members : List (String × Json)}
    (h : ∀ member ∈ members, ReadBack depth member.2) : ReadBack (depth + 1) (.obj members) := by
  intro fuel rest hfuel hrest
  cases members with
  | nil =>
    rw [chars] at hfuel ⊢
    obtain ⟨fuel, rfl⟩ := Nat.exists_eq_add_of_le' (show 1 ≤ fuel from Nat.le_of_succ_le hfuel)
    rw [List.cons_append, value]
    rfl
  | cons first members =>
    obtain ⟨name, v⟩ := first
    rw [chars] at hfuel ⊢
    simp only [List.length_cons, List.length_append] at hfuel
    obtain ⟨fuel, rfl⟩ := Nat.exists_eq_add_of_le' (show 1 ≤ fuel by omega)
    have hlength : (stringChars name ++ ':' :: chars v).length ≤ fuel := by
      simp only [List.length_append, List.length_cons]
      omega
    have hread : ReadBack depth v := h (name, v) List.mem_cons_self
    have hmember := member_append hread hlength (endsNumber_membersChars members rest)
    have hmembers : membersAfter fuel depth (membersChars members ++ rest) = _ :=
      membersAfter_append (fun other hmem => h other (List.mem_cons_of_mem _ hmem)) (by omega) rest
    rw [stringChars_append] at hmember
    rw [List.cons_append, List.append_assoc, List.cons_append, List.append_assoc,
      stringChars_append, value_brace, hmember]
    dsimp only
    rw [hmembers, Option.map_some]
    dsimp only
    have hnamed := ofNamed_map ((name, reread v) :: rereadMembers members)
    rw [List.map_cons] at hnamed
    rw [hnamed]
    rfl

theorem value_null {fuel : Nat} (hfuel : ['n', 'u', 'l', 'l'].length ≤ fuel)
    (rest : List Char) : value fuel depth (['n', 'u', 'l', 'l'] ++ rest) = some (.null, rest) := by
  obtain ⟨fuel, rfl⟩ := Nat.exists_eq_add_of_le' (Nat.le_trans (by decide : 1 ≤ 4) hfuel)
  simp only [List.cons_append, List.nil_append]
  rw [value]
  rfl

theorem readBack_bool (b : Bool) : ReadBack depth (.bool b) := by
  intro fuel rest hfuel hrest
  cases b <;>
  · rw [chars] at hfuel ⊢
    obtain ⟨fuel, rfl⟩ := Nat.exists_eq_add_of_le' (Nat.le_trans (by decide) hfuel : 1 ≤ fuel)
    simp only [List.cons_append, List.nil_append]
    rw [value]
    rfl

theorem readBack_str (text : String) : ReadBack depth (.str text) := by
  intro fuel rest hfuel hrest
  rw [chars] at hfuel ⊢
  have hpos : 1 ≤ (stringChars text).length := by simp [stringChars]
  obtain ⟨fuel, rfl⟩ := Nat.exists_eq_add_of_le' (hpos.trans hfuel)
  exact value_stringChars fuel depth text rest

theorem readBack_single (x : Single) : ReadBack depth (.single x) := by
  intro fuel rest hfuel hrest
  rw [chars] at hfuel ⊢
  by_cases hfinite : x.isFinite = true
  · rw [value_append_of_startsNumber (exists_singleChars_eq_cons hfinite) hfuel,
      number_singleChars hfinite hrest, reread, if_pos hfinite]
  · rw [singleChars, if_neg hfinite] at hfuel ⊢
    rw [value_null hfuel, reread, if_neg hfinite]

theorem Fits.readBack {v : Json} (h : Fits depth v) : ReadBack depth v := by
  induction h with
  | null =>
    intro fuel rest hfuel hrest
    rw [chars] at hfuel ⊢
    exact value_null hfuel rest
  | bool b => exact readBack_bool b
  | int low high =>
    intro fuel rest hfuel hrest
    rw [chars] at hfuel ⊢
    rw [value_append_of_startsNumber (Decimal.exists_ofInt_eq_cons _) hfuel,
      number_ofInt low high hrest]
    rfl
  | single x => exact readBack_single x
  | str text => exact readBack_str text
  | arr items_fit ih => exact readBack_arr items_fit ih
  | obj members_fit ih => exact readBack_obj ih

/-! ## Whole texts -/

theorem wholeItems_rereadItems {items : List Json}
    (h : ∀ item ∈ items, isWhole (reread item) = true) :
    wholeItems (rereadItems items) = true := by
  induction items with
  | nil => rfl
  | cons item items ih =>
    rw [rereadItems, wholeItems, h item List.mem_cons_self,
      ih fun other hmem => h other (List.mem_cons_of_mem item hmem)]
    rfl

theorem wholeMembers_rereadMembers {members : List (String × Json)}
    (h : ∀ member ∈ members, isWhole (reread member.2) = true) :
    wholeMembers (rereadMembers members) = true := by
  induction members with
  | nil => rfl
  | cons first members ih =>
    obtain ⟨name, v⟩ := first
    have hfirst : isWhole (reread v) = true := h (name, v) List.mem_cons_self
    rw [rereadMembers, wholeMembers, hfirst,
      ih fun other hmem => h other (List.mem_cons_of_mem _ hmem)]
    rfl

theorem Fits.isWhole_reread {v : Json} (h : Fits depth v) : isWhole (reread v) = true := by
  induction h with
  | null => rfl
  | bool b => rfl
  | int low high => rfl
  | single x =>
    rw [reread]
    split <;> rfl
  | str text => rfl
  | arr items_fit ih =>
    rw [reread, isWhole]
    exact wholeItems_rereadItems ih
  | obj members_fit ih =>
    rw [reread, isWhole]
    exact wholeMembers_rereadMembers ih

/-- What is written of a value that fits is read as that value, but for its 32-bit numbers. -/
theorem parse?_render {v : Json} (h : Fits depthLimit v) : parse? v.render = some (reread v) := by
  have hread := h.readBack (2 * (chars v).length + 2) [] (by omega) endsNumber_nil
  rw [List.append_nil] at hread
  rw [parse?, render, String.toList_ofList, readWithin?, hread]
  show (some (reread v)).filter isWhole = _
  rw [Option.filter_some, h.isWhole_reread, if_pos rfl]

end SpeechProbe.Json
