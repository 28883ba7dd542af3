import ValueAssertions.Value.Document
import ValueAssertions.Proofs.Document.Reading
import ValueAssertions.Proofs.Number.Division
import ValueAssertions.Proofs.Value.Equality

/-!
# Values written as documents and read back

A value that is written as a document and read again has lost only what JSON does not have
(`ofDocument_toDocument`).  What it has then is `Value.jsonData`: null stands for absent
values, functions and numbers that are not finite, and all else is equal to what it was.

## Strategy

The places where something could be lost are the numbers and the order of fields.

* A whole number is written as an integer and read back by rounding it.  Numbers of the
  format are not moved by rounding (`beq_ofInt_of_toInt?`), and the greatest integer with a
  sign in 64 bits, which stands for `2 ^ 63`, is rounded up to it (`ofInt_wholeLimit_sub_one`).
* Fields are put in the order of their names when a document is read.  In a value they stand
  so already (`Value.Ordered`), as they do in every value that was read
  (`ordered_ofDocument`), and sorting leaves them there (`sortFields_of_pairwise`).

Equal values have one document (`toDocument_eq_of_beq`), from which it follows that a second
time nothing more is lost.
-/

namespace ValueAssertions

/-! ## Numbers -/

namespace Number

theorem natAbs_signed (negative : Bool) (n : Nat) : (signed negative n).natAbs = n := by
  cases negative <;> simp [signed]

/-- The sign of a count is read off, unless nothing is counted. -/
theorem signed_decide_signed_lt_zero (negative : Bool) (n unit : Nat) :
    signed (decide (signed negative n < 0)) (n * unit) = signed negative (n * unit) := by
  cases negative with
  | false => simp [signed]
  | true =>
      rcases Nat.eq_zero_or_pos n with rfl | hpos
      · simp [signed]
      · have hneg : signed true n < 0 := by
          rw [signed, if_pos rfl]
          omega
        rw [decide_eq_true hneg]

/-- The integer that a number is rounds to the number. -/
theorem beq_ofInt_of_toInt? {n : Number} {i : Int} (h : n.toInt? = some i) :
    (ofInt i == n) = true := by
  cases n with
  | nan => cases h
  | infinite negative => cases h
  | finite negative m =>
      rw [toInt?] at h
      split at h
      · next hwhole =>
          obtain rfl := Option.some.inj h
          have hquanta : m.quanta / quantaPerOne * quantaPerOne = m.quanta :=
            Nat.div_mul_cancel (Nat.dvd_of_mod_eq_zero hwhole)
          have hsign := signed_decide_signed_lt_zero negative (m.quanta / quantaPerOne) quantaPerOne
          rw [hquanta] at hsign
          rw [ofInt, natAbs_signed, hquanta, ofQuotient_of_representable _ m.representable,
            beq_iff_place]
          exact ⟨signed negative m.quanta, congrArg some hsign, rfl⟩
      · cases h

theorem toInt?_zero (negative : Bool) : (zero negative).toInt? = some 0 := by
  rw [zero, toInt?, Nat.zero_mod, if_pos rfl, Nat.zero_div]
  cases negative <;> rfl

end Number

namespace Value

/-- The integer below the limit rounds to the limit. -/
theorem ofInt_wholeLimit_sub_one :
    Number.ofInt ((wholeLimit : Int) - 1) = Number.ofInt wholeLimit := by
  decide +kernel

theorem beq_ofInt_min {n : Number} {i : Int} (h : n.toInt? = some i)
    (hle : i.natAbs ≤ wholeLimit) :
    (Number.ofInt (min i (wholeLimit - 1)) == n) = true := by
  rcases eq_or_ne i wholeLimit with rfl | hne
  · rw [min_eq_right (by omega), ofInt_wholeLimit_sub_one]
    exact Number.beq_ofInt_of_toInt? h
  · rw [min_eq_left (by omega)]
    exact Number.beq_ofInt_of_toInt? h

theorem beq_number (m n : Number) : (number m == number n) = (m == n) := rfl

/-- Finite numbers of every size survive. -/
theorem beq_ofDocument_numberDocument {n : Number} (h : n.isFinite = true) :
    (ofDocument (numberDocument n) == number n) = true := by
  have hself : (n == n) = true := Number.beq_self_of_ne_nan (by rintro rfl; cases h)
  rw [numberDocument]
  cases hint : n.toInt? with
  | none =>
      simp only [h, if_true]
      rw [ofDocument, Numeral.toNumber, beq_number, hself]
  | some i =>
      by_cases hle : i.natAbs ≤ wholeLimit
      · simp only [hle, if_true]
        rw [ofDocument, Numeral.toNumber, beq_number, beq_ofInt_min hint hle]
      · simp only [hle, if_false]
        rw [ofDocument, Numeral.toNumber, beq_number, hself]

theorem numberDocument_of_not_isFinite {n : Number} (h : n.isFinite = false) :
    numberDocument n = .null := by
  cases n with
  | finite negative m => cases h
  | nan => rfl
  | infinite negative => rfl

theorem numberDocument_zero (negative : Bool) :
    numberDocument (.zero negative) = .number (.whole 0) := by
  rw [numberDocument, Number.toInt?_zero]
  rfl

/-! ## Fields in order -/

/-- The fields of every object stand in the order of their names, each name once. -/
inductive Ordered : Value → Prop
  | undefined : Ordered .undefined
  | null : Ordered .null
  | bool (value : Bool) : Ordered (.bool value)
  | number (n : Number) : Ordered (.number n)
  | string (s : String) : Ordered (.string s)
  | array {items : List Value} (h : ∀ item ∈ items, Ordered item) : Ordered (.array items)
  | object {fields : List (String × Value)} (hnames : fields.Pairwise fun f g => f.1 < g.1)
      (h : ∀ field ∈ fields, Ordered field.2) : Ordered (.object fields)
  | function (name : String) : Ordered (.function name)

theorem insertField_of_forall_lt {name : String} {fields : List (String × Value)}
    (h : ∀ field ∈ fields, field.1 < name) (value : Value) :
    insertField name value fields = fields ++ [(name, value)] := by
  induction fields with
  | nil => rfl
  | cons field rest ih =>
      obtain ⟨hfirst, hrest⟩ := List.forall_mem_cons.mp h
      have hne : name ≠ field.1 := by
        rintro rfl
        exact String.lt_irrefl _ hfirst
      rw [insertField, if_neg hne, if_neg (String.lt_asymm hfirst), ih hrest, List.cons_append]

/-- Fields that stand in order are left as they are. -/
theorem sortFields_of_pairwise {fields : List (String × Value)}
    (h : fields.Pairwise fun f g => f.1 < g.1) : sortFields fields = fields := by
  -- What was put in order before stands in front of what is still to come.
  have hfold : ∀ (before rest : List (String × Value)),
      (before ++ rest).Pairwise (fun f g => f.1 < g.1) →
      rest.foldl (fun sorted field => insertField field.1 field.2 sorted) before =
        before ++ rest := by
    intro before rest
    induction rest generalizing before with
    | nil => simp
    | cons field rest ih =>
        intro hpairwise
        have hbefore : ∀ other ∈ before, other.1 < field.1 := fun other hother =>
          (List.pairwise_append.mp hpairwise).2.2 other hother field List.mem_cons_self
        rw [List.foldl_cons, insertField_of_forall_lt hbefore, ih, List.append_assoc]
        · rfl
        · rwa [List.append_assoc]
  exact hfold [] fields h

theorem mem_insertField {name : String} {value : Value} {fields : List (String × Value)}
    {field : String × Value} (h : field ∈ insertField name value fields) :
    field = (name, value) ∨ field ∈ fields := by
  induction fields with
  | nil => exact .inl (List.mem_singleton.mp h)
  | cons first rest ih =>
      rw [insertField] at h
      split at h
      · rcases List.mem_cons.mp h with rfl | hrest
        · exact .inl rfl
        · exact .inr (List.mem_cons_of_mem _ hrest)
      · split at h
        · exact List.mem_cons.mp h
        · rcases List.mem_cons.mp h with rfl | hinserted
          · exact .inr List.mem_cons_self
          · exact (ih hinserted).imp_right (List.mem_cons_of_mem _)

/-- A field that is put in leaves the fields in order. -/
theorem pairwise_insertField {fields : List (String × Value)}
    (h : fields.Pairwise fun f g => f.1 < g.1) (name : String) (value : Value) :
    (insertField name value fields).Pairwise fun f g => f.1 < g.1 := by
  induction fields with
  | nil => exact List.pairwise_singleton _ _
  | cons first rest ih =>
      obtain ⟨hfirst, hrest⟩ := List.pairwise_cons.mp h
      rw [insertField]
      split
      · next heq =>
          subst heq
          exact List.pairwise_cons.mpr ⟨hfirst, hrest⟩
      · next hne =>
          split
          · next hlt =>
              refine List.pairwise_cons.mpr ⟨fun field hfield => ?_, h⟩
              rcases List.mem_cons.mp hfield with rfl | hmem
              · exact hlt
              · exact String.lt_trans hlt (hfirst field hmem)
          · next hnot =>
              have hlt : first.1 < name := Std.lt_of_le_of_ne (String.not_lt.mp hnot) (Ne.symm hne)
              refine List.pairwise_cons.mpr ⟨fun field hfield => ?_, ih hrest⟩
              rcases mem_insertField hfield with rfl | hmem
              · exact hlt
              · exact hfirst field hmem

/-- Sorted fields stand in order, and were all there before. -/
theorem ordered_sortFields (fields : List (String × Value)) :
    (sortFields fields).Pairwise (fun f g => f.1 < g.1) ∧
      ∀ field ∈ sortFields fields, field ∈ fields := by
  induction fields using List.reverseRecOn with
  | nil => exact ⟨List.Pairwise.nil, nofun⟩
  | append_singleton fields last ih =>
      have hsort : sortFields (fields ++ [last]) = insertField last.1 last.2 (sortFields fields) :=
        List.foldl_concat ..
      rw [hsort]
      refine ⟨pairwise_insertField ih.1 _ _, fun field hfield => ?_⟩
      rcases mem_insertField hfield with rfl | hmem
      · simp
      · exact List.mem_append_left _ (ih.2 field hmem)

/-- Every value that is read from a document has its fields in order. -/
theorem ordered_ofDocument (d : Document) : (ofDocument d).Ordered := by
  induction d using Document.induction with
  | scalar d h =>
      cases h with
      | null => exact .null
      | bool value => exact .bool value
      | number numeral => exact .number _
      | string text => exact .string text
  | array items ih =>
      rw [ofDocument, ofItems_eq_map]
      exact .array (List.forall_mem_map.mpr ih)
  | object members ih =>
      rw [ofDocument, ofMembers_eq_map]
      obtain ⟨hpairwise, hmem⟩ :=
        ordered_sortFields (members.map fun member => (member.1, ofDocument member.2))
      refine .object hpairwise fun field hfield => ?_
      obtain ⟨member, hmember, rfl⟩ := List.mem_map.mp (hmem field hfield)
      exact ih member.1 member.2 hmember

/-! ## What JSON can hold -/

mutual

/-- What JSON can hold of a value, with null for absent values, functions and numbers that
are not finite. -/
def jsonData : Value → Value
  | .undefined => .null
  | .null => .null
  | .bool b => .bool b
  | .number n => if n.isFinite then .number n else .null
  | .string s => .string s
  | .array items => .array (jsonItems items)
  | .object fields => .object (jsonFields fields)
  | .function _ => .null

/-- What JSON can hold of the elements of an array. -/
def jsonItems : List Value → List Value
  | [] => []
  | item :: rest => item.jsonData :: jsonItems rest

/-- What JSON can hold of the fields of an object. -/
def jsonFields : List (String × Value) → List (String × Value)
  | [] => []
  | (name, value) :: rest => (name, value.jsonData) :: jsonFields rest

end

theorem jsonItems_eq_map (items : List Value) : jsonItems items = items.map jsonData := by
  induction items with
  | nil => rfl
  | cons item items ih => rw [jsonItems, ih, List.map_cons]

theorem jsonFields_eq_map (fields : List (String × Value)) :
    jsonFields fields = fields.map fun field => (field.1, field.2.jsonData) := by
  induction fields with
  | nil => rfl
  | cons field fields ih => rw [jsonFields, ih, List.map_cons]

/-! ## Writing and reading -/

theorem ofDocument_toDocument_object {fields : List (String × Value)}
    (h : fields.Pairwise fun f g => f.1 < g.1) :
    ofDocument (toDocument (.object fields)) =
      .object (fields.map fun field => (field.1, ofDocument field.2.toDocument)) := by
  rw [toDocument, ofDocument, toMembers_eq_map, ofMembers_eq_map, List.map_map,
    sortFields_of_pairwise]
  · rfl
  · exact List.pairwise_map.mpr h

/-- Reading what was written gives back what JSON can hold. -/
theorem beq_ofDocument_toDocument {v : Value} (h : v.Ordered) :
    (ofDocument v.toDocument == v.jsonData) = true := by
  induction h with
  | undefined => rfl
  | null => rfl
  | bool value => exact beq_self_eq_true value
  | number n =>
      rw [toDocument, jsonData]
      cases hfinite : n.isFinite with
      | true => exact beq_ofDocument_numberDocument hfinite
      | false =>
          rw [numberDocument_of_not_isFinite hfinite]
          rfl
  | string s => exact beq_self_eq_true s
  | array _ ih =>
      rw [toDocument, ofDocument, jsonData, toItems_eq_map, ofItems_eq_map, List.map_map,
        jsonItems_eq_map, beq_array_iff, List.forall₂_map_left_iff, List.forall₂_map_right_iff,
        List.forall₂_same]
      exact ih
  | object hnames _ ih =>
      rw [ofDocument_toDocument_object hnames, jsonData, jsonFields_eq_map, beq_object_iff,
        List.forall₂_map_left_iff, List.forall₂_map_right_iff, List.forall₂_same]
      exact fun field hfield => ⟨rfl, ih field hfield⟩
  | function name => rfl

/-- What JSON can hold of a value is written like the value. -/
theorem toDocument_jsonData {v : Value} (h : v.Ordered) : v.jsonData.toDocument = v.toDocument := by
  induction h with
  | number n =>
      rw [jsonData, toDocument]
      cases hfinite : n.isFinite with
      | true => rfl
      | false => exact (numberDocument_of_not_isFinite hfinite).symm
  | array _ ih =>
      rw [jsonData, toDocument, toDocument, jsonItems_eq_map, toItems_eq_map, toItems_eq_map,
        List.map_map]
      exact congrArg Document.array (List.map_congr_left ih)
  | object _ _ ih =>
      rw [jsonData, toDocument, toDocument, jsonFields_eq_map, toMembers_eq_map, toMembers_eq_map,
        List.map_map]
      refine congrArg Document.object (List.map_congr_left fun field hfield => ?_)
      exact congrArg (Prod.mk field.1) (ih field hfield)
  | _ => rfl

theorem toDocument_eq_of_beq {a b : Value} (h : (a == b) = true) :
    a.toDocument = b.toDocument := by
  induction a, b, h using beq_induction with
  | number m n h =>
      rcases Number.eq_or_zero_of_beq h with rfl | ⟨s, t, rfl, rfl⟩
      · rfl
      · rw [toDocument, toDocument, numberDocument_zero, numberDocument_zero]
  | array as bs _ ih =>
      rw [toDocument, toDocument, toItems_eq_map, toItems_eq_map,
        map_eq_of_forall₂ (ih.imp fun a b ⟨_, hdocument⟩ => hdocument)]
  | object fs gs _ ih =>
      rw [toDocument, toDocument, toMembers_eq_map, toMembers_eq_map]
      refine congrArg Document.object (map_eq_of_forall₂ (ih.imp ?_))
      rintro f g ⟨hname, _, hdocument⟩
      rw [hname, hdocument]
  | _ => rfl

/-- **Writing and reading.**  A value that is written as a document and read again is equal to
what JSON can hold of it, which is all of a finite number, whatever its size.  Written again
it gives the same document. -/
theorem ofDocument_toDocument {v : Value} (h : v.Ordered) :
    (ofDocument v.toDocument == v.jsonData) = true ∧
      (∀ n : Number, n.isFinite = true →
        (ofDocument (number n).toDocument == number n) = true) ∧
      (ofDocument v.toDocument).toDocument = v.toDocument := by
  have hread : (ofDocument v.toDocument == v.jsonData) = true := beq_ofDocument_toDocument h
  refine ⟨hread, fun n hn => ?_, ?_⟩
  · rw [toDocument]
    exact beq_ofDocument_numberDocument hn
  · calc (ofDocument v.toDocument).toDocument = v.jsonData.toDocument :=
          toDocument_eq_of_beq hread
      _ = v.toDocument := toDocument_jsonData h

/-- Fields with what JSON does not have, and the numbers `2 ^ 63` and `-0.0`. -/
def mixedFields : Value :=
  .object [
    ("absent", .array [.undefined, .function "f", .number .nan, .number (.infinite true)]),
    ("limit", .number (.ofInt 9223372036854775808)),
    ("zero", .object [("negative", .number (.zero true))])]

theorem mixedFields_written :
    mixedFields.Ordered ∧
      (ofDocument mixedFields.toDocument == mixedFields.jsonData) = true ∧
      (∀ n : Number, n.isFinite = true →
        (ofDocument (number n).toDocument == number n) = true) ∧
      (ofDocument mixedFields.toDocument).toDocument = mixedFields.toDocument := by
  have habsent : Ordered
      (.array [.undefined, .function "f", .number .nan, .number (.infinite true)]) := by
    refine .array fun item hitem => ?_
    simp only [List.mem_cons, List.not_mem_nil, or_false] at hitem
    rcases hitem with rfl | rfl | rfl | rfl
    · exact .undefined
    · exact .function "f"
    · exact .number .nan
    · exact .number (.infinite true)
  have hzero : Ordered (.object [("negative", .number (.zero true))]) :=
    .object (List.pairwise_singleton _ _) (List.forall_mem_singleton.mpr (.number _))
  have hfields : mixedFields.Ordered := by
    refine .object (by decide) ?_
    simp only [List.forall_mem_cons]
    exact ⟨habsent, .number _, hzero, List.forall_mem_nil _⟩
  exact ⟨hfields, ofDocument_toDocument hfields⟩

end Value

end ValueAssertions
