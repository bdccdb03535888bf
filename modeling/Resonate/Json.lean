import Resonate.Table

set_option autoImplicit false

/-! JSON values, how typed values are read from them, and codecs whose decoder undoes the encoder. -/

/-- A JSON value. `real` is a number with a fraction or an exponent, as written. -/
inductive Json
  | null
  | bool (value : Bool)
  | int (value : Int)
  | real (text : String)
  | str (text : String)
  | arr (items : List Json)
  | obj (members : List (String × Json))

namespace Json

/-- The member under a key, null where there is none. -/
def get (value : Json) (key : String) : Json :=
  match value with
  | .obj members => (members.lookup key).getD .null
  | _ => .null

def asStr : Json → Option String
  | .str text => some text
  | _ => none

def asObj : Json → Option (List (String × Json))
  | .obj members => some members
  | _ => none

def isObject (value : Json) : Bool := value.asObj.isSome

abbrev Decoder (α : Type) := Json → Option α

def number : Decoder Int
  | .int value => some value
  | _ => none

/-- A whole number of 64 bits. -/
def IsI64 (value : Int) : Prop := -2 ^ 63 ≤ value ∧ value ≤ 2 ^ 63 - 1

instance (value : Int) : Decidable (IsI64 value) :=
  inferInstanceAs (Decidable (-2 ^ 63 ≤ value ∧ value ≤ 2 ^ 63 - 1))

/-- A whole number within 64 bits. -/
def i64 : Decoder Int
  | .int value => if IsI64 value then some value else none
  | _ => none

def nullable {α : Type} (decode : Decoder α) : Decoder (Option α)
  | .null => some none
  | value => (decode value).map some

def listOf {α : Type} (decode : Decoder α) : Decoder (List α)
  | .arr items => items.mapM decode
  | _ => none

def textMember (member : String × Json) : Option (String × String) :=
  member.2.asStr.map fun text => (member.1, text)

/-- A map of texts. -/
def textMap : Decoder (Table String String)
  | .obj members => (members.mapM textMember).map fun entries =>
      Std.ExtTreeMap.ofList entries compare
  | _ => none

/-- One of a list of names, alone or as the only key of an object over null. -/
def variant {α : Type} (names : List (String × α)) : Decoder α
  | .str name => names.lookup name
  | .obj [(name, .null)] => names.lookup name
  | _ => none

/-- The fields of a record, in an object under their names or in an array in their order. -/
def fields (names : List String) : Json → Option (String → Option Json)
  | .obj members => some fun name => members.lookup name
  | .arr items =>
      if items.length ≤ names.length then some fun name => (names.zip items).lookup name else none
  | _ => none

/-- The tag of a tagged union and where its fields are: the member under a key, or the first item of an
array that the fields follow in their order. -/
def tagged (tag : String) : Json → Option (String × Json)
  | .obj members => ((members.lookup tag).bind asStr).map fun name => (name, .obj members)
  | .arr (.str name :: items) => some (name, .arr items)
  | _ => none

def required {α : Type} (fields : String → Option Json) (name : String) (decode : Decoder α) :
    Option α :=
  (fields name).bind decode

def defaulted {α : Type} (fields : String → Option Json) (name : String) (decode : Decoder α)
    (default : α) : Option α :=
  match fields name with
  | some value => decode value
  | none => some default

/-- A value that null leaves at its default. -/
def nullDefault {α : Type} (decode : Decoder α) (default : α) : Decoder α :=
  fun value => (nullable decode value).map fun read => read.getD default

def ofOption {α : Type} (encode : α → Json) : Option α → Json
  | some value => encode value
  | none => .null

def ofTexts (texts : Table String String) : Json :=
  .obj (texts.toList.map fun entry => (entry.1, .str entry.2))

/-- The member of an optional field, left out where there is none. -/
def member {α : Type} (name : String) (encode : α → Json) (value : Option α) :
    List (String × Json) :=
  (value.map fun present => (name, encode present)).toList

mutual

/-- The compact text of a value whose strings need no escape. -/
def text : Json → String
  | .null => "null"
  | .bool value => toString value
  | .int value => toString value
  | .real text => text
  | .str text => String.append "\"" (String.append text "\"")
  | .arr items => String.append "[" (String.append (String.intercalate "," (texts items)) "]")
  | .obj members =>
      String.append "\x7b" (String.append (String.intercalate "," (entries members)) "\x7d")

def texts : List Json → List String
  | [] => []
  | item :: rest => text item :: texts rest

def entries : List (String × Json) → List String
  | [] => []
  | member :: rest => entry member :: entries rest

def entry : String × Json → String
  | (name, value) =>
      String.append "\"" (String.append name (String.append "\":" (text value)))

end

section

variable {α : Type} {decode : Decoder α} {encode : α → Json}

@[simp] theorem asStr_str (text : String) : (Json.str text).asStr = some text := rfl

@[simp] theorem number_int (value : Int) : number (.int value) = some value := rfl

@[simp] theorem fields_obj (names : List String) (members : List (String × Json)) :
    fields names (.obj members) = some fun name => members.lookup name := rfl

@[simp] theorem member_none (name : String) : member name encode none = [] := rfl

@[simp] theorem member_some (name : String) (value : α) :
    member name encode (some value) = [(name, encode value)] := rfl

theorem i64_int {value : Int} (fits : IsI64 value) : i64 (.int value) = some value := if_pos fits

theorem required_some {fields : String → Option Json} {name : String} {value : Json} {read : α}
    (found : fields name = some value) (decoded : decode value = some read) :
    required fields name decode = some read := by
  unfold required
  rw [found]
  exact decoded

theorem defaulted_some {fields : String → Option Json} {name : String} {value : Json} {read : α}
    (found : fields name = some value) (decoded : decode value = some read) (default : α) :
    defaulted fields name decode default = some read := by
  unfold defaulted
  rw [found]
  exact decoded

@[simp] theorem get_obj (members : List (String × Json)) (key : String) :
    (Json.obj members).get key = (members.lookup key).getD .null := rfl

/-- The fields of a record are read from an object or an array. -/
theorem fields_shape {names : List String} {value : Json} {read : String → Option Json}
    (shaped : fields names value = some read) :
    (∃ members, value = .obj members) ∨ ∃ items, value = .arr items := by
  unfold fields at shaped
  split at shaped
  · exact .inl ⟨_, rfl⟩
  · exact .inr ⟨_, rfl⟩
  · cases shaped

/-- Only an object has a text under a key. -/
theorem get_shape {value : Json} {key text : String} (found : (value.get key).asStr = some text) :
    ∃ members, value = .obj members := by
  unfold get at found
  split at found
  · exact ⟨_, rfl⟩
  · cases found

theorem get_required {members : List (String × Json)} {name text : String}
    (read : required (fun name => members.lookup name) name asStr = some text) :
    ((Json.obj members).get name).asStr = some text := by
  obtain ⟨value, found, named⟩ := Option.bind_eq_some_iff.mp read
  dsimp only at found
  rw [get_obj, found]
  exact named

theorem get_defaulted {members : List (String × Json)} {name text : String}
    (read : defaulted (fun name => members.lookup name) name asStr "" = some text) :
    ((Json.obj members).get name).asStr.getD "" = text := by
  unfold defaulted at read
  split at read
  · rename_i value found
    dsimp only at found
    rw [get_obj, found]
    exact congrArg (Option.getD · "") read
  · rename_i absent
    dsimp only at absent
    rw [get_obj, absent]
    exact Option.some.inj read

theorem listOf_arr_mem {values : List α}
    (undoes : ∀ value ∈ values, decode (encode value) = some value) :
    listOf decode (.arr (values.map encode)) = some values := by
  change (values.map encode).mapM decode = some values
  induction values with
  | nil => rfl
  | cons value rest ih =>
      rw [List.map_cons, List.mapM_cons, undoes value List.mem_cons_self,
        ih fun other member => undoes other (List.mem_cons_of_mem _ member)]
      rfl

theorem listOf_arr (undoes : ∀ value, decode (encode value) = some value) (values : List α) :
    listOf decode (.arr (values.map encode)) = some values :=
  listOf_arr_mem fun value _ => undoes value

theorem nullable_some {value : Json} {read : α} (decoded : decode value = some read)
    (present : value ≠ .null) : nullable decode value = some (some read) := by
  unfold nullable
  split
  · exact absurd rfl present
  · rw [decoded]
    rfl

theorem nullable_ofOption (undoes : ∀ value, decode (encode value) = some value)
    (present : ∀ value, encode value ≠ .null) (value : Option α) :
    nullable decode (ofOption encode value) = some value := by
  cases value with
  | none => rfl
  | some value => exact nullable_some (undoes value) (present value)

@[simp] theorem nullable_null : nullable decode .null = some none := rfl

@[simp] theorem nullable_str (text : String) : nullable asStr (.str text) = some (some text) := rfl

@[simp] theorem nullable_int (value : Int) : nullable number (.int value) = some (some value) := rfl

@[simp] theorem textMap_ofTexts (texts : Table String String) : textMap (ofTexts texts) = some texts := by
  have read (entries : List (String × String)) :
      (entries.map fun entry => (entry.1, Json.str entry.2)).mapM textMember = some entries := by
    induction entries with
    | nil => rfl
    | cons entry rest ih =>
        rw [List.map_cons, List.mapM_cons, ih]
        rfl
  have whole := Table.ofList_toList texts
  unfold ofTexts textMap
  dsimp only
  rw [read, Option.map_some, whole]

@[simp] theorem nullable_ofTexts (texts : Table String String) :
    nullable textMap (ofTexts texts) = some (some texts) :=
  nullable_some (textMap_ofTexts texts) (by simp [ofTexts])

end

end Json
