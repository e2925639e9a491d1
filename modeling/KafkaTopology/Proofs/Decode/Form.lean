import KafkaTopology.Proofs.Decode.Layout
/-!
# The forms of documents

What the documents that a decoder accepts look like. Every way of putting decoders together has a
form that says the same of the documents, so the form of a decoder is read off its parts.
-/
namespace KafkaTopology

/-- A form that documents may have. -/
abbrev Form := Document → Prop

/-- How a part of a record may be written. -/
structure Part where
  name : String
  /-- Other accepted spellings. -/
  aliases : List String
  /-- A mapping must have the part. -/
  required : Bool
  /-- A list may end before the part. -/
  hasDefault : Bool
  form : Form

namespace Part

/-- A part that must be there. -/
def mandatory (name : String) (aliases : List String) (form : Form) : Part :=
  ⟨name, aliases, true, false, form⟩

/-- A part that may be absent. -/
def defaulted (name : String) (aliases : List String) (form : Form) : Part :=
  ⟨name, aliases, false, true, form⟩

/-- A part that a mapping may leave out, but a list may not. -/
def omissible (name : String) (aliases : List String) (form : Form) : Part :=
  ⟨name, aliases, false, false, form⟩

/-- Whether a key names the part. -/
def isNamed (p : Part) (key : String) : Bool := p.name == key || p.aliases.contains key

end Part

namespace Form

def text : Form := fun d => ∃ s, d = .text s

def bool : Form := fun d => ∃ b, d = .bool b

def any : Form := fun _ => True

/-- Null, or of the form. -/
def optional (form : Form) : Form := fun d => d = .null ∨ form d

/-- A list with items of the form. -/
def list (form : Form) : Form := fun d => ∃ items, d = .list items ∧ ∀ item ∈ items, form item

/-- A mapping with values of the form, whatever the keys. -/
def values (form : Form) : Form := fun d =>
  ∃ entries, d = .mapping entries ∧ ∀ e ∈ entries, form e.2

/-- Whether a record with these parts may be laid out as it is: a mapping has each part at most once
and the required ones at least once, a list ends where only defaults remain. -/
def Allows (parts : List Part) (d : Document) : Prop :=
  match d with
  | .mapping _ =>
    ((d.laidOut Part.isNamed parts).map (·.1.name)).Nodup ∧
      ∀ p ∈ parts, p.required = true → p.name ∈ (d.laidOut Part.isNamed parts).map (·.1.name)
  | .list items =>
    items.length ≤ parts.length ∧ ∀ p ∈ parts.drop items.length, p.hasDefault = true
  | _ => False

/-- A record with these parts: a mapping from the names of the parts, or a list in their order. -/
def record (parts : List Part) : Form := fun d =>
  Allows parts d ∧ ∀ v ∈ d.laidOut Part.isNamed parts, v.1.form v.2

/-- The value that a document holds for a part of a record. -/
def value? (parts : List Part) (name : String) (d : Document) : Option Document :=
  ((d.laidOut Part.isNamed parts).find? (·.1.name == name)).map (·.2)

end Form

/-! ## The form of a decoder -/

namespace Decoder
variable {α : Type}

/-- The form of the documents that a decoder accepts. -/
def form (decode : Decoder α) : Form := fun d => (decode .strict d).isOk = true

@[simp]
theorem form_text : text.form = Form.text := by
  funext d
  cases d <;> simp [form, text, Form.text, mismatch]

@[simp]
theorem form_bool : bool.form = Form.bool := by
  funext d
  cases d <;> simp [form, bool, Form.bool, mismatch]

@[simp]
theorem form_any : any.form = Form.any := by
  funext d
  exact eq_self _

@[simp]
theorem form_option (decode : Decoder α) : (option decode).form = .optional decode.form := by
  funext d
  cases d <;> simp [form, option, Form.optional]

@[simp]
theorem form_list (decode : Decoder α) : (list decode).form = .list decode.form := by
  funext d
  cases d <;> simp [form, list, Form.list, Except.isOk_mapM_iff, mismatch]

/-- A list decodes, into values that have a property, exactly if each item does. -/
theorem exists_list_iff {decode : Decoder α} {p : α → Prop} {d : Document} :
    (∃ values, list decode .strict d = .ok values ∧ ∀ a ∈ values, p a) ↔
      Form.list (fun item => ∃ a, decode .strict item = .ok a ∧ p a) d := by
  cases d <;> simp [list, Form.list, Except.exists_mapM_iff, mismatch]

@[simp]
theorem form_pairs (decode : Decoder α) : (pairs decode).form = .values decode.form := by
  funext d
  cases d <;> simp [form, pairs, Form.values, Except.isOk_mapM_iff, mismatch]

end Decoder

/-! ## Records -/

namespace Field
variable {ρ α : Type}

/-- Whether the field can be read does not depend on what has been read before. -/
def IsUniform (f : Field ρ) : Prop :=
  ∀ d r r', (f.read .strict d r).isOk = (f.read .strict d r').isOk

/-- How the field may be written. -/
def part (f : Field ρ) (r : ρ) : Part :=
  ⟨f.name, f.aliases, f.required, f.hasDefault, fun d => (f.read .strict d r).isOk = true⟩

variable (name : String) (aliases : List String) (decode : Decoder α) (set : α → ρ → ρ)

theorem isOk_read (d : Document) (r : ρ) :
    (do return set (← decode .strict d) r : Except DecodeError ρ).isOk =
      (decode .strict d).isOk := by
  cases decode .strict d <;> rfl

@[simp]
theorem isUniform_mandatory : (mandatory name decode set).IsUniform :=
  fun d r r' => (isOk_read decode set d r).trans (isOk_read decode set d r').symm

@[simp]
theorem isUniform_defaulted : (defaulted name aliases decode set).IsUniform :=
  fun d r r' => (isOk_read decode set d r).trans (isOk_read decode set d r').symm

@[simp]
theorem isUniform_omissible : (omissible name aliases decode set).IsUniform :=
  fun d r r' => (isOk_read decode set d r).trans (isOk_read decode set d r').symm

@[simp]
theorem part_mandatory (r : ρ) :
    (mandatory name decode set).part r = .mandatory name [] decode.form := by
  simp only [part, mandatory, isOk_read]
  rfl

@[simp]
theorem part_defaulted (r : ρ) :
    (defaulted name aliases decode set).part r = .defaulted name aliases decode.form := by
  simp only [part, defaulted, isOk_read]
  rfl

@[simp]
theorem part_omissible (r : ρ) :
    (omissible name aliases decode set).part r = .omissible name aliases decode.form := by
  simp only [part, omissible, isOk_read]
  rfl

end Field

namespace Schema
variable {ρ : Type}

/-- How the record may be written, part by part. -/
def parts (schema : Schema ρ) : List Part := schema.fields.map (·.part schema.blank)

theorem laidOut_parts (schema : Schema ρ) (d : Document) :
    d.laidOut Part.isNamed schema.parts =
      (schema.laidOut d).map (Prod.map (·.part schema.blank) id) :=
  Document.laidOut_map _ _ _ _

theorem value?_parts (schema : Schema ρ) (name : String) (d : Document) :
    Form.value? schema.parts name d = schema.value? name d := by
  rw [Form.value?, laidOut_parts, List.find?_map, Option.map_map]
  rfl

theorem allows_parts_iff (schema : Schema ρ) (d : Document) :
    Form.Allows schema.parts d ↔ schema.Admits d := by
  cases d with
  | mapping entries =>
    have hnames : ((Document.mapping entries).laidOut Part.isNamed schema.parts).map (·.1.name) =
        (schema.laidOut (.mapping entries)).map (·.1.name) := by
      rw [laidOut_parts, List.map_map]
      rfl
    simp only [Form.Allows, Admits, hnames]
    rw [parts, List.forall_mem_map]
    exact Iff.rfl
  | list items => simp [Form.Allows, Admits, parts, Field.part, ← List.map_drop]
  | _ => exact Iff.rfl

/-- The documents that decode as a record are those that are written as its fields allow. -/
theorem form_decode {schema : Schema ρ} (h : ∀ f ∈ schema.fields, f.IsUniform) :
    schema.decode.form = .record schema.parts := by
  funext d
  have hread : (readAll (schema.laidOut d) schema.blank).isOk = true ↔
      ∀ v ∈ schema.laidOut d, (v.1.part schema.blank).form v.2 :=
    Except.isOk_foldlM_iff
      (fun r v hv => by rw [h v.1 (mem_laidOut hv) v.2 r schema.blank]; exact Iff.rfl) _
  simp only [Decoder.form, Except.isOk_iff, decode_eq_ok_iff, exists_and_left, Form.record,
    allows_parts_iff, laidOut_parts, List.forall_mem_map] at hread ⊢
  rw [hread]
  rfl

end Schema
end KafkaTopology
