import FleetDeploy.Config.Toml
import Mathlib.Logic.Basic

/-!
# What layers make of a tree

Every entry of a layer is laid over a tree at the path that its key is, and where it is a table its
own entries are laid over what is there, key by key. What stands at one path afterwards is a matter
of that path alone: it is what the last entry says that leads there, if any does, and otherwise what
stood there before. This needs that nothing gets in the way, which would be an entry that puts
something other than a table where the path goes on, or something below where it ends.

* `FleetDeploy.ConfigValue.saidAt` – what a value laid at a path says of the value at some names,
  and `FleetDeploy.ConfigValue.Fits` – that it does not get in their way;
* `FleetDeploy.ConfigValue.valueAt?_layAt` – what one entry makes of a tree, and
  `FleetDeploy.ConfigValue.valueAt?_layOver` – what a layer does, by induction over its entries;
* `FleetDeploy.ConfigValue.Grows` – keys are added to a layer that lead elsewhere;
  `FleetDeploy.ConfigValue.Grows.said_eq` – it says the same as before.
-/

namespace FleetDeploy.ConfigValue

open Toml (valueAt?)

/-! ### What is said of a path -/

/-- Whether a value is neither a table nor an array. -/
def IsScalar : ConfigValue → Prop
  | .array _ => False
  | .table _ => False
  | _ => True

/-- What a value says of the value at some names within it. Of several keys that are the same in
lower case the last one counts that says something. -/
def said : List String → ConfigValue → Option ConfigValue
  | [], value => some value
  | name :: names, value =>
    value.entries.reverse.findSome? fun e =>
      if Text.lowercase e.1 = name then said names e.2 else none

/-- What a value that is laid at a path says of the value at some names. -/
def saidAt : List Segment → List String → ConfigValue → Option ConfigValue
  | [], names, value => said names value
  | .key key :: path, name :: names, value => if key = name then saidAt path names value else none
  | _, _, _ => none

/-- A value has room for a scalar at some names within it: wherever it leads along the names, it is
a table before their end and a scalar there. -/
def Holds : List String → ConfigValue → Prop
  | [], value => value.IsScalar
  | name :: names, .table entries => ∀ e ∈ entries, Text.lowercase e.1 = name → Holds names e.2
  | _ :: _, _ => False

/-- **A value that is laid at a path does not get in the way of some names**: either the path leads
elsewhere, or it is a beginning of the names and the value has room for the rest of them. -/
def Fits : List Segment → List String → ConfigValue → Prop
  | [], names, value => Holds names value
  | .key key :: path, name :: names, value => key = name → Fits path names value
  | _, _, _ => False

/-- Whether a value has room at some names can be decided. -/
instance decidableHolds :
    (names : List String) → (value : ConfigValue) → Decidable (Holds names value)
  | [], .array _ | [], .table _ => .isFalse id
  | [], .null | [], .bool _ | [], .integer _ | [], .float _ | [], .text _ => .isTrue trivial
  | name :: names, .table entries =>
    have := decidableHolds names
    inferInstanceAs (Decidable (∀ e ∈ entries, Text.lowercase e.1 = name → Holds names e.2))
  | _ :: _, .null | _ :: _, .bool _ | _ :: _, .integer _ | _ :: _, .float _ | _ :: _, .text _
  | _ :: _, .array _ => .isFalse id

/-- Whether a value is in the way of some names can be decided. -/
instance decidableFits : (path : List Segment) → (names : List String) → (value : ConfigValue) →
    Decidable (Fits path names value)
  | [], names, value => decidableHolds names value
  | .key key :: path, name :: names, value =>
    have := decidableFits path names value
    inferInstanceAs (Decidable (key = name → Fits path names value))
  | .key _ :: _, [], _ | .index _ :: _, _, _ => .isFalse id

/-- A path leads elsewhere than some names: it is neither a beginning nor a continuation of them. -/
def Apart : List Segment → List String → Prop
  | .key key :: path, name :: names => key ≠ name ∨ Apart path names
  | _, _ => False

/-- Whether a path leads elsewhere can be decided. -/
instance decidableApart :
    (path : List Segment) → (names : List String) → Decidable (Apart path names)
  | .key key :: path, name :: names =>
    have := decidableApart path names
    inferInstanceAs (Decidable (key ≠ name ∨ Apart path names))
  | [], _ | .key _ :: _, [] | .index _ :: _, _ => .isFalse id

/-! ### Tables -/

theorem lookup_putEntry (key name : String) (value : ConfigValue)
    (entries : List (String × ConfigValue)) :
    (putEntry key value entries).lookup name =
      if name = key then some value else entries.lookup name := by
  induction entries with
  | nil => grind [putEntry]
  | cons e rest ih =>
    rw [putEntry]
    by_cases found : e.1 = key
    · rw [if_pos found]
      grind
    · rw [if_neg found]
      grind

/-- A key that is set has its value, and all others have theirs. -/
theorem get?_put (v : ConfigValue) (key name : String) (value : ConfigValue) :
    (v.put key value).get? name = if name = key then some value else v.get? name :=
  lookup_putEntry key name value v.entries

/-! ### One entry after the other -/

/-- Where each item of a list sets something or leaves it, the last one that sets it counts. -/
theorem foldl_latest {τ ε α : Type} {f : τ → ε → τ} (seen : τ → Option α) {tells : ε → Option α}
    {l : List ε} {t : τ} {w : α}
    (step : ∀ e ∈ l, ∀ t w, seen t = some w → seen (f t e) = some ((tells e).getD w))
    (before : seen t = some w) :
    seen (l.foldl f t) = some ((l.reverse.findSome? tells).getD w) := by
  induction l generalizing t w with
  | nil => exact before
  | cons e rest ih =>
    obtain ⟨first, others⟩ := List.forall_mem_cons.mp step
    rw [List.foldl_cons, ih others (first t w before), List.reverse_cons, List.findSome?_append]
    cases rest.reverse.findSome? tells <;> simp

theorem overlayAll_eq_foldl (target : ConfigValue) (entries : List (String × ConfigValue)) :
    overlayAll target entries =
      entries.foldl
        (fun t e => t.put (Text.lowercase e.1) (overlay (t.get? (Text.lowercase e.1)) e.2))
        target := by
  induction entries generalizing target with
  | nil => rfl
  | cons e rest ih => rw [overlayAll, ih, List.foldl_cons]

variable {path : List Segment} {names : List String} {value tree w : ConfigValue}

/-- **What is laid over a value** that has something at some names: it has what is said of them, or
what it had before. -/
theorem valueAt?_overlay (holds : Holds names value) (there : valueAt? tree names = some w) :
    valueAt? (overlay (some tree) value) names = some ((said names value).getD w) := by
  induction names generalizing value tree w with
  | nil =>
    cases value with
    | array items => exact holds.elim
    | table entries => exact holds.elim
    | _ => rfl
  | cons name names ih =>
    cases value with
    | table entries =>
      rw [overlay, Option.getD_some, overlayAll_eq_foldl]
      refine foldl_latest (fun t => valueAt? t (name :: names)) ?_ there
      intro e mem t w there
      obtain ⟨inner, found, within⟩ := Option.bind_eq_some_iff.mp there
      by_cases same : Text.lowercase e.1 = name
      · have inside := ih (holds e mem same) within
        simp only [valueAt?, get?_put, same, if_true, Option.bind_some, found, inside]
      · simp only [valueAt?, get?_put, if_neg same, if_neg (Ne.symm same), found, within,
          Option.bind_some, Option.getD_none]
    | _ => exact holds.elim

/-- **What one entry makes of a tree** that has something at some names. -/
theorem valueAt?_layAt (somewhere : path ≠ []) (fits : Fits path names value)
    (there : valueAt? tree names = some w) :
    valueAt? (layAt value path tree) names = some ((saidAt path names value).getD w) := by
  induction path generalizing names tree with
  | nil => exact absurd rfl somewhere
  | cons step path ih =>
    rcases step with key | place
    · rcases names with _ | ⟨name, names⟩
      · exact fits.elim
      · obtain ⟨inner, found, within⟩ := Option.bind_eq_some_iff.mp there
        have put : ∃ x, layAt value (.key key :: path) tree = tree.put key x ∧
            (key = name → valueAt? x names = some ((saidAt path names value).getD w)) := by
          rcases path with _ | ⟨next, path⟩
          · refine ⟨overlay (tree.get? key) value, rfl, ?_⟩
            rintro rfl
            rw [found]
            exact valueAt?_overlay (fits rfl) within
          · refine ⟨layAt value (next :: path) ((tree.get? key).getD .null), rfl, ?_⟩
            rintro rfl
            rw [found]
            exact ih (List.cons_ne_nil next path) (fits rfl) within
        obtain ⟨x, laid, inside⟩ := put
        rw [laid, valueAt?, get?_put, saidAt]
        by_cases same : key = name
        · simp only [same, if_true, Option.bind_some, inside same]
        · simp only [if_neg same, if_neg (Ne.symm same), found, within, Option.bind_some,
            Option.getD_none]
    · rcases names with _ | ⟨name, names⟩ <;> exact fits.elim

/-- A key leads somewhere, whether it is written as a path or not. -/
theorem pathOf_ne_nil (key : String) : pathOf key ≠ [] := by
  unfold pathOf
  rcases readName? key.toList with _ | ⟨name, rest⟩
  · exact List.cons_ne_nil _ _
  · rcases steps : readSteps? (rest.length + 1) rest with _ | path
    · simp [steps]
    · simp [steps]

/-! ### Layers -/

/-- What entries say of the value at some names, where each key leads to a path: what the last of
them says that says anything. The keys of a layer lead to the paths that they are. -/
def saidBy (leads : String → List Segment) (entries : List (String × ConfigValue))
    (names : List String) : Option ConfigValue :=
  entries.reverse.findSome? fun e => saidAt (leads e.1) names e.2

/-- None of some entries gets in the way of some names. -/
def AllFit (leads : String → List Segment) (entries : List (String × ConfigValue))
    (names : List String) : Prop :=
  ∀ e ∈ entries, Fits (leads e.1) names e.2

/-- **What a layer makes of a tree** that has something at some names: what it says of them is there
then, or what was there before. -/
theorem valueAt?_layOver {layer : List (String × ConfigValue)} (fit : AllFit pathOf layer names)
    (there : valueAt? tree names = some w) :
    valueAt? (layOver tree layer) names = some ((saidBy pathOf layer names).getD w) :=
  foldl_latest (fun t => valueAt? t names)
    (fun e mem _ _ there => valueAt?_layAt (pathOf_ne_nil e.1) (fit e mem) there) there

/-! ### Keys that lead elsewhere -/

variable {leads : String → List Segment} {entries entries' : List (String × ConfigValue)}
  {known : List (List String)}

/-- What leads elsewhere is not in the way. -/
theorem Apart.fits (apart : Apart path names) : Fits path names value := by
  induction path generalizing names with
  | nil => exact apart.elim
  | cons step path ih =>
    rcases step with key | place <;> rcases names with _ | ⟨name, names⟩
    · exact apart.elim
    · rintro rfl
      exact ih (apart.resolve_left fun other => other rfl)
    · exact apart.elim
    · exact apart.elim

/-- What leads elsewhere says nothing. -/
theorem Apart.saidAt_eq (apart : Apart path names) : saidAt path names value = none := by
  induction path generalizing names with
  | nil => exact apart.elim
  | cons step path ih =>
    rcases step with key | place <;> rcases names with _ | ⟨name, names⟩
    · exact apart.elim
    · rw [saidAt, ite_eq_right_iff]
      rintro rfl
      exact ih (apart.resolve_left fun other => other rfl)
    · exact apart.elim
    · exact apart.elim

/-- A table is not in the way if a table may stand at its path and none of its entries is. -/
theorem fits_table_iff :
    Fits path names (.table entries) ↔
      Fits path names (.table []) ∧
        AllFit (fun key => path ++ [.key (Text.lowercase key)]) entries names := by
  induction path generalizing names with
  | nil =>
    rcases names with _ | ⟨name, names⟩
    · exact ⟨False.elim, fun both => both.1⟩
    · exact ⟨fun holds => ⟨nofun, holds⟩, fun both => both.2⟩
  | cons step path ih =>
    rcases step with key | place <;> rcases names with _ | ⟨name, names⟩
    · exact ⟨False.elim, fun both => both.1⟩
    · constructor
      · intro fits
        exact ⟨fun same => (ih.mp (fits same)).1, fun e mem same => (ih.mp (fits same)).2 e mem⟩
      · rintro ⟨room, fit⟩ same
        exact ih.mpr ⟨room same, fun e mem => fit e mem same⟩
    · exact ⟨False.elim, fun both => both.1⟩
    · exact ⟨False.elim, fun both => both.1⟩

/-- A table says what its entries say. -/
theorem saidAt_table (room : Fits path names (.table [])) :
    saidAt path names (.table entries) =
      saidBy (fun key => path ++ [.key (Text.lowercase key)]) entries names := by
  induction path generalizing names with
  | nil =>
    rcases names with _ | ⟨name, names⟩
    · exact room.elim
    · rfl
  | cons step path ih =>
    rcases step with key | place <;> rcases names with _ | ⟨name, names⟩
    · exact room.elim
    · by_cases same : key = name
      · simp only [saidAt, saidBy, List.cons_append, if_pos same, ih (room same)]
      · rw [saidAt, if_neg same, saidBy, eq_comm, List.findSome?_eq_none_iff]
        exact fun e _ => if_neg same
    · exact room.elim
    · exact room.elim

theorem saidBy_cons (e : String × ConfigValue) :
    saidBy leads (e :: entries) names =
      (saidBy leads entries names).or (saidAt (leads e.1) names e.2) := by
  rw [saidBy, List.reverse_cons, List.findSome?_append, List.findSome?_singleton]
  rfl

/-- **Keys are added**, at the top or in the tables below, which lead elsewhere than all that is
known; everything else stays. -/
inductive Grows (known : List (List String)) : (String → List Segment) →
    List (String × ConfigValue) → List (String × ConfigValue) → Prop
  | nil {leads : String → List Segment} : Grows known leads [] []
  | kept {leads : String → List Segment} {e : String × ConfigValue}
      {entries entries' : List (String × ConfigValue)} (rest : Grows known leads entries entries') :
      Grows known leads (e :: entries) (e :: entries')
  | added {leads : String → List Segment} {key : String} {value : ConfigValue}
      {entries entries' : List (String × ConfigValue)}
      (elsewhere : ∀ names ∈ known, Apart (leads key) names)
      (rest : Grows known leads entries entries') :
      Grows known leads entries ((key, value) :: entries')
  | within {leads : String → List Segment} {key : String}
      {inner inner' entries entries' : List (String × ConfigValue)}
      (below : Grows known (fun k => leads key ++ [.key (Text.lowercase k)]) inner inner')
      (rest : Grows known leads entries entries') :
      Grows known leads ((key, .table inner) :: entries) ((key, .table inner') :: entries')

theorem Grows.refl (entries : List (String × ConfigValue)) : Grows known leads entries entries := by
  induction entries with
  | nil => exact .nil
  | cons e rest ih => exact .kept ih

/-- **Keys that lead elsewhere make no difference** to what is said of anything that is known. -/
theorem Grows.said_eq (grows : Grows known leads entries entries') (mem : names ∈ known)
    (fit : AllFit leads entries names) :
    AllFit leads entries' names ∧ saidBy leads entries' names = saidBy leads entries names := by
  induction grows with
  | nil => exact ⟨fit, rfl⟩
  | kept rest ih =>
    obtain ⟨first, others⟩ := List.forall_mem_cons.mp fit
    obtain ⟨fit', same⟩ := ih others
    refine ⟨List.forall_mem_cons.mpr ⟨first, fit'⟩, ?_⟩
    rw [saidBy_cons, saidBy_cons, same]
  | added elsewhere rest ih =>
    obtain ⟨fit', same⟩ := ih fit
    refine ⟨List.forall_mem_cons.mpr ⟨(elsewhere names mem).fits, fit'⟩, ?_⟩
    rw [saidBy_cons, (elsewhere names mem).saidAt_eq, same, Option.or_none]
  | within below rest ihBelow ih =>
    obtain ⟨first, others⟩ := List.forall_mem_cons.mp fit
    obtain ⟨room, inside⟩ := fits_table_iff.mp first
    obtain ⟨inside', sameInside⟩ := ihBelow inside
    obtain ⟨fit', same⟩ := ih others
    refine ⟨List.forall_mem_cons.mpr ⟨fits_table_iff.mpr ⟨room, inside'⟩, fit'⟩, ?_⟩
    rw [saidBy_cons, saidBy_cons, saidAt_table room, saidAt_table room, sameInside, same]

end FleetDeploy.ConfigValue
