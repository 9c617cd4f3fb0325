import Coinslot.Lib.JsonTrees
import Mathlib.Data.List.Nodup

/-!
# JSON values up to their spelling

A value is put in one form by spelling each of its leaves one way, which may depend on the name of the field it
stands in (`respelled`), and by putting the fields of each object in one order (`ordered`). Two values get the same
form exactly where they are alike: the same items and the same names, with leaves alike (`alike_of_formed`,
`formed_of_alike`).
-/

namespace JsonTree

open List

variable {ν : Type}

/-- A value that holds no others. -/
def Json.IsLeaf : Json ν → Prop
  | .array _ => False
  | .object _ => False
  | _ => True

/-- A value whose objects have each name once. -/
inductive Distinct : Json ν → Prop where
  | leaf {v : Json ν} (h : v.IsLeaf) : Distinct v
  | array {items : List (Json ν)} (h : ∀ v ∈ items, Distinct v) : Distinct (.array items)
  | object {fields : List (String × Json ν)} (names : (fields.map Prod.fst).Nodup)
      (h : ∀ f ∈ fields, Distinct f.2) : Distinct (.object fields)

section
variable (le : String → String → Bool)

mutual

/-- A value with the fields of each object in one order. -/
def ordered : Json ν → Json ν
  | .array items => .array (orderedItems items)
  | .object fields => .object ((orderedFields fields).mergeSort fun f g => le f.1 g.1)
  | v => v

/-- Some values, each with its fields in one order. -/
def orderedItems : List (Json ν) → List (Json ν)
  | [] => []
  | v :: rest => ordered v :: orderedItems rest

/-- Some fields, the value of each with its fields in one order. -/
def orderedFields : List (String × Json ν) → List (String × Json ν)
  | [] => []
  | (name, v) :: rest => (name, ordered v) :: orderedFields rest

end

theorem orderedItems_eq (items : List (Json ν)) : orderedItems le items = items.map (ordered le) := by
  induction items with
  | nil => rfl
  | cons v rest ih => rw [orderedItems, ih, map_cons]

theorem orderedFields_eq (fields : List (String × Json ν)) :
    orderedFields le fields = fields.map fun f => (f.1, ordered le f.2) := by
  induction fields with
  | nil => rfl
  | cons f rest ih =>
    obtain ⟨name, v⟩ := f
    rw [orderedFields, ih, map_cons]

theorem ordered_leaf {v : Json ν} (h : v.IsLeaf) : ordered le v = v := by
  cases v with
  | array | object => exact h.elim
  | null | bool | number | string => rfl

end

section
variable (spell : Option String → Json ν → Json ν)

mutual

/-- A value with each of its leaves spelled one way. -/
def respelled : Option String → Json ν → Json ν
  | _, .array items => .array (respelledItems items)
  | _, .object fields => .object (respelledFields fields)
  | key, v => spell key v

/-- Some items, each spelled one way. -/
def respelledItems : List (Json ν) → List (Json ν)
  | [] => []
  | v :: rest => respelled none v :: respelledItems rest

/-- Some fields, the value of each spelled one way. -/
def respelledFields : List (String × Json ν) → List (String × Json ν)
  | [] => []
  | (name, v) :: rest => (name, respelled (some name) v) :: respelledFields rest

end

theorem respelledItems_eq (items : List (Json ν)) :
    respelledItems spell items = items.map (respelled spell none) := by
  induction items with
  | nil => rfl
  | cons v rest ih => rw [respelledItems, ih, map_cons]

theorem respelledFields_eq (fields : List (String × Json ν)) :
    respelledFields spell fields = fields.map fun f => (f.1, respelled spell (some f.1) f.2) := by
  induction fields with
  | nil => rfl
  | cons f rest ih =>
    obtain ⟨name, v⟩ := f
    rw [respelledFields, ih, map_cons]

theorem respelled_leaf (key : Option String) {v : Json ν} (h : v.IsLeaf) : respelled spell key v = spell key v := by
  cases v with
  | array | object => exact h.elim
  | null | bool | number | string => rfl

end

/-- Two values with the same items and names, where leaves are alike. -/
inductive Alike (R : Option String → Json ν → Json ν → Prop) : Option String → Json ν → Json ν → Prop where
  | leaf {key : Option String} {v w : Json ν} (hv : v.IsLeaf) (hw : w.IsLeaf) (h : R key v w) : Alike R key v w
  | array {key : Option String} {items items' : List (Json ν)} (length : items.length = items'.length)
      (h : ∀ (i : Nat) (v w : Json ν), items[i]? = some v → items'[i]? = some w → Alike R none v w) :
      Alike R key (.array items) (.array items')
  | object {key : Option String} {fields fields' : List (String × Json ν)}
      (names : ∀ name, name ∈ fields.map Prod.fst ↔ name ∈ fields'.map Prod.fst)
      (h : ∀ name v w, (name, v) ∈ fields → (name, w) ∈ fields' → Alike R (some name) v w) :
      Alike R key (.object fields) (.object fields')

/-- An order of names. -/
structure OrdersNames (le : String → String → Bool) : Prop where
  trans : ∀ a b c, le a b = true → le b c = true → le a c = true
  total : ∀ a b, (le a b || le b a) = true
  antisymm : ∀ a b, le a b = true → le b a = true → a = b

variable {le : String → String → Bool} {spell : Option String → Json ν → Json ν}
  {R : Option String → Json ν → Json ν → Prop} {key : Option String}

variable {v w : Json ν}

theorem eq_of_mem_names {fields : List (String × Json ν)} (h : (fields.map Prod.fst).Nodup) {name : String}
    (hv : (name, v) ∈ fields) (hw : (name, w) ∈ fields) : v = w := by
  have := inj_on_of_nodup_map h hv hw rfl
  exact (Prod.ext_iff.1 this).2

theorem ordered_names (hle : OrdersNames le) (fields : List (String × Json ν)) :
    (fields.mergeSort fun f g => le f.1 g.1).Pairwise fun f g => le f.1 g.1 = true :=
  pairwise_mergeSort (fun f g k => hle.trans f.1 g.1 k.1) (fun f g => hle.total f.1 g.1) fields

theorem mergeSort_eq_of_perm (hle : OrdersNames le) {fields fields' : List (String × Json ν)}
    (hnodup : (fields.map Prod.fst).Nodup) (h : fields.Perm fields') :
    fields.mergeSort (fun f g => le f.1 g.1) = fields'.mergeSort (fun f g => le f.1 g.1) := by
  refine List.Perm.eq_of_pairwise ?_ (ordered_names hle fields) (ordered_names hle fields')
    ((mergeSort_perm _ _).trans (h.trans (mergeSort_perm _ _).symm))
  intro f g hf hg hfg hgf
  exact inj_on_of_nodup_map hnodup (mem_mergeSort.1 hf) (h.mem_iff.2 (mem_mergeSort.1 hg)) (hle.antisymm _ _ hfg hgf)

/-! ## The form of a value -/

variable (le spell) in
/-- The form of a value: its leaves spelled, and the fields of its objects in order. -/
def formed (key : Option String) (v : Json ν) : Json ν := ordered le (respelled spell key v)

theorem formed_array (key : Option String) (items : List (Json ν)) :
    formed le spell key (.array items) = .array (items.map (formed le spell none)) := by
  rw [formed, respelled, ordered, orderedItems_eq, respelledItems_eq, map_map]
  rfl

def formedField (le : String → String → Bool) (spell : Option String → Json ν → Json ν)
    (f : String × Json ν) : String × Json ν := (f.1, formed le spell (some f.1) f.2)

theorem formed_object (key : Option String) (fields : List (String × Json ν)) :
    formed le spell key (.object fields) =
      .object ((fields.map (formedField le spell)).mergeSort fun f g => le f.1 g.1) := by
  rw [formed, respelled, ordered, orderedFields_eq, respelledFields_eq, map_map]
  rfl

theorem formed_leaf (hspell : ∀ key v, v.IsLeaf → (spell key v).IsLeaf) (key : Option String) (h : v.IsLeaf) :
    formed le spell key v = spell key v := by
  rw [formed, respelled_leaf spell key h, ordered_leaf le (hspell key v h)]

theorem names_formed (fields : List (String × Json ν)) :
    (fields.map (formedField le spell)).map Prod.fst = fields.map Prod.fst := by
  rw [map_map]
  rfl

theorem leaf_of_formed (hspell : ∀ key v, v.IsLeaf → (spell key v).IsLeaf) (hv : v.IsLeaf)
    (h : formed le spell key v = formed le spell key w) : w.IsLeaf := by
  rw [formed_leaf hspell key hv] at h
  have hleaf := hspell key v hv
  cases w with
  | array items =>
    rw [h, formed_array] at hleaf
    exact hleaf.elim
  | object fields =>
    rw [h, formed_object] at hleaf
    exact hleaf.elim
  | null | bool | number | string => trivial

theorem alike_of_formed (hspell : ∀ key v, v.IsLeaf → (spell key v).IsLeaf)
    (hR : ∀ key v w, v.IsLeaf → w.IsLeaf → spell key v = spell key w → R key v w) (v : Json ν) (hw : Distinct w)
    (h : formed le spell key v = formed le spell key w) : Alike R key v w := by
  have hleaf {key : Option String} {v w : Json ν} (hv : v.IsLeaf)
      (h : formed le spell key v = formed le spell key w) : Alike R key v w := by
    have hw := leaf_of_formed hspell hv h
    rw [formed_leaf hspell key hv, formed_leaf hspell key hw] at h
    exact .leaf hv hw (hR key v w hv hw h)
  induction v using Json.induct generalizing w key with
  | null | bool | number | string => exact hleaf trivial h
  | array items ih =>
    cases w with
    | array items' =>
      cases hw with
      | leaf h => exact h.elim
      | array hitems' =>
        rw [formed_array, formed_array, Json.array.injEq] at h
        refine .array (by simpa using congrArg List.length h) fun i v w hv hw => ?_
        have hi := congrArg (·[i]?) h
        simp only [getElem?_map, hv, hw, Option.map_some, Option.some.injEq] at hi
        exact ih v (mem_of_getElem? hv) (hitems' w (mem_of_getElem? hw)) hi
    | object fields' => cases h
    | null | bool | number | string => exact (leaf_of_formed hspell (by trivial) h.symm).elim
  | object fields ih =>
    cases w with
    | object fields' =>
      cases hw with
      | leaf h => exact h.elim
      | object hnodup hfields' =>
        rw [formed_object, formed_object, Json.object.injEq] at h
        have hperm : (fields.map (formedField le spell)).Perm (fields'.map (formedField le spell)) :=
          (mergeSort_perm _ _).symm.trans (by rw [h]; exact mergeSort_perm _ _)
        refine .object (fun name => ?_) fun name v w hv hw => ?_
        · have hnames := (hperm.map Prod.fst).mem_iff (a := name)
          rwa [names_formed, names_formed] at hnames
        · have hmem := hperm.mem_iff.1 (mem_map_of_mem (f := formedField le spell) hv)
          obtain ⟨⟨name', w'⟩, hw', heq⟩ := mem_map.1 hmem
          obtain ⟨hname, hvalue⟩ := Prod.mk.inj heq
          subst hname
          rw [eq_of_mem_names hnodup hw' hw] at hvalue
          exact ih (name', v) hv (hfields' _ hw) hvalue.symm
    | array items' => cases h
    | null | bool | number | string => exact (leaf_of_formed hspell (by trivial) h.symm).elim

theorem formed_of_alike (hle : OrdersNames le) (hspell : ∀ key v, v.IsLeaf → (spell key v).IsLeaf)
    (hR : ∀ key v w, v.IsLeaf → w.IsLeaf → R key v w → spell key v = spell key w) (hv : Distinct v)
    (hw : Distinct w) (h : Alike R key v w) : formed le spell key v = formed le spell key w := by
  induction h with
  | leaf hvl hwl h => rw [formed_leaf hspell _ hvl, formed_leaf hspell _ hwl, hR _ _ _ hvl hwl h]
  | @array key items items' hlen _ ih =>
    cases hv with
    | leaf h => exact h.elim
    | array hitems => cases hw with
      | leaf h => exact h.elim
      | array hitems' =>
        rw [formed_array, formed_array, Json.array.injEq]
        refine ext_getElem (by simpa using hlen) fun i hi hi' => ?_
        rw [length_map] at hi hi'
        rw [getElem_map, getElem_map]
        exact ih i _ _ (getElem?_eq_getElem hi) (getElem?_eq_getElem hi')
          (hitems _ (getElem_mem hi)) (hitems' _ (getElem_mem hi'))
  | @object key fields fields' hnames _ ih =>
    cases hv with
    | leaf h => exact h.elim
    | object hnodup hfields => cases hw with
      | leaf h => exact h.elim
      | object hnodup' hfields' =>
        rw [formed_object, formed_object, Json.object.injEq]
        have hsame : ∀ name v w, (name, v) ∈ fields → (name, w) ∈ fields' →
            formedField le spell (name, v) = formedField le spell (name, w) := fun name v w hv hw =>
          congrArg (Prod.mk name) (ih name v w hv hw (hfields _ hv) (hfields' _ hw))
        have hnodupForm (fields : List (String × Json ν)) (h : (fields.map Prod.fst).Nodup) :
            ((fields.map (formedField le spell)).map Prod.fst).Nodup := by rwa [names_formed]
        refine mergeSort_eq_of_perm hle (hnodupForm fields hnodup)
          ((perm_ext_iff_of_nodup (.of_map _ (hnodupForm fields hnodup))
            (.of_map _ (hnodupForm fields' hnodup'))).2 fun f => ?_)
        constructor
        · intro hf
          obtain ⟨⟨name, v⟩, hv, rfl⟩ := mem_map.1 hf
          obtain ⟨⟨_, w⟩, hw, rfl⟩ := mem_map.1 ((hnames name).1 (mem_map_of_mem (f := Prod.fst) hv))
          exact mem_map.2 ⟨_, hw, (hsame _ v w hv hw).symm⟩
        · intro hf
          obtain ⟨⟨name, w⟩, hw, rfl⟩ := mem_map.1 hf
          obtain ⟨⟨_, v⟩, hv, rfl⟩ := mem_map.1 ((hnames name).2 (mem_map_of_mem (f := Prod.fst) hw))
          exact mem_map.2 ⟨_, hv, hsame _ v w hv hw⟩

/-! ## The numbers of a form -/

variable {P : ν → Prop}

theorem numbers_formed (hspell : ∀ key v, v.IsLeaf → (spell key v).IsLeaf)
    (hnumbers : ∀ key v, v.IsLeaf → Numbers P v → Numbers P (spell key v)) (v : Json ν) (hv : Numbers P v) :
    Numbers P (formed le spell key v) := by
  induction v using Json.induct generalizing key with
  | null | bool | number | string =>
    rw [formed_leaf hspell key]
    · exact hnumbers key _ trivial hv
    · trivial
  | array items ih =>
    cases hv with
    | array hitems =>
      rw [formed_array]
      refine .array fun v hv => ?_
      obtain ⟨w, hw, rfl⟩ := mem_map.1 hv
      exact ih w hw (hitems w hw)
  | object fields ih =>
    cases hv with
    | object hfields =>
      rw [formed_object]
      refine .object fun f hf => ?_
      obtain ⟨g, hg, rfl⟩ := mem_map.1 (mem_mergeSort.1 hf)
      exact ih g hg (hfields g hg)

end JsonTree
