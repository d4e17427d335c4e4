import VerbNoun.Proofs.Chain
import VerbNoun.Proofs.Command.Piping
import VerbNoun.Proofs.Command.Registry
set_option autoImplicit false

/-!
# Command: arithmetic through the pipe (SPEC §8, §13)

A chain of arithmetic commands works on one number, which goes from command to command through the
pipe: it is a fold from the left.  In each command the piped number is the first operand, so that
the cursor over the positional parameters starts at the second.  A switch among the operands
commutes with them, wherever it stands.
-/

namespace VerbNoun

open Number Text

/-! ## A switch among arguments by position -/

namespace Binding

variable {d : Descriptor} {p : Slot}

/-- A binding with a switch on. -/
def turnOn (p : Slot) (b : Binding) : Binding := b.put p (.ofBool true)

/-- A binding with a switch on, or as it is. -/
def turnOnIf (p : Slot) (on : Bool) (b : Binding) : Binding := if on then b.turnOn p else b

theorem put_turnOn {q : Slot} (hne : q.index ≠ p.index) (v : Value) (b : Binding) :
    (b.turnOn p).put q v = (b.put q v).turnOn p := by
  unfold turnOn put
  rw [List.set_comm _ _ hne.symm]
  simp only [List.filter_filter, Bool.and_comm]

theorem turnOnIf_turnOn (on : Bool) (b : Binding) : (b.turnOn p).turnOnIf p on = b.turnOn p := by
  cases on with
  | false => rfl
  | true => simp [turnOnIf, turnOn, put]

theorem mapRun_mapRun (f g : Binding → Binding) (r : Except Fault Binding × Store) :
    mapRun f (mapRun g r) = mapRun (fun b => f (g b)) r := by
  unfold mapRun
  cases r.1 <;> rfl

theorem step_turnOn {b : Binding} (hvacant : ∀ q ∈ b.vacant, q.index ≠ p.index) (a : Statement)
    (s : Store) :
    (b.turnOn p).step d (.positional a) s = mapRun (turnOn p) (b.step d (.positional a) s) := by
  have hsame : (b.turnOn p).vacant = b.vacant := rfl
  simp only [step, hsame]
  cases hb : b.vacant with
  | nil => rfl
  | cons q vacant =>
      have hq : q.index ≠ p.index := hvacant q (by simp [hb])
      exact putArgument_mapRun (fun v => put_turnOn hq v { b with vacant := vacant }) a s

/-- A switch that is on stays on while arguments are bound by position, and nothing else of them
depends on it. -/
theorem steps_turnOn {items : List Item} (hitems : ∀ item ∈ items, ∃ a, item = .positional a)
    {b : Binding} (hvacant : ∀ q ∈ b.vacant, q.index ≠ p.index) (s : Store) :
    (b.turnOn p).steps d items s = mapRun (turnOn p) (b.steps d items s) := by
  refine steps_mapRun (motive := fun items b =>
    (∀ item ∈ items, ∃ a, item = .positional a) ∧ ∀ q ∈ b.vacant, q.index ≠ p.index)
    ?_ ⟨hitems, hvacant⟩ s
  intro item items b s h
  obtain ⟨hitems, hvacant⟩ := h
  obtain ⟨⟨a, rfl⟩, hrest⟩ := List.forall_mem_cons.1 hitems
  refine ⟨step_turnOn hvacant a s, fun b' s' hstep => ⟨hrest, fun q hq => ?_⟩⟩
  rw [(step_advances hstep).vacant_eq] at hq
  exact hvacant q (List.mem_of_mem_drop hq)

end Binding

namespace Arithmetic

open Binding Evaluation

/-! ## Operands and operations -/

/-- Numbers in their order with the switch `Flip` anywhere among them, any number of times, and
whether it is there at all. -/
inductive Spread : Bool → List Double → List Statement → Prop
  | nil : Spread false [] []
  | number {flipped : Bool} {xs : List Double} {args : List Statement} (x : Double)
      (h : Spread flipped xs args) : Spread flipped (x :: xs) (.number x :: args)
  | flip {flipped : Bool} {xs : List Double} {args : List Statement} {name : String}
      (hname : lower name = lower "Flip") (h : Spread flipped xs args) :
      Spread true xs (.flag name :: args)

/-- The arithmetic of two numbers.  A quotient can be taken the other way round. -/
inductive Operation where
  | add
  | subtract
  | multiply
  | divide (flipped : Bool)

namespace Operation

/-- The name of the command. -/
def name : Operation → String
  | .add => "Add-Number"
  | .subtract => "Subtract-Number"
  | .multiply => "Multiply-Number"
  | .divide _ => "Divide-Number"

/-- What comes of two numbers. -/
def apply : Operation → Double → Double → Double
  | .add, x, y => Binary.add x y
  | .subtract, x, y => Binary.sub x y
  | .multiply, x, y => Binary.mul x y
  | .divide false, x, y => Binary.div x y
  | .divide true, x, y => Binary.div y x

/-- Whether the call has the switch. -/
def flipped : Operation → Bool
  | .divide flipped => flipped
  | _ => false

/-- A call of the operation's command with these numbers: the name in any letter case, and the
switch, if the operation has it, anywhere among the numbers. -/
structure Spells (o : Operation) (xs : List Double) (call : Call) : Prop where
  name_eq : upper call.name = upper o.name
  args : Spread o.flipped xs call.args

/-- The declaration of the command. -/
def declaration : Operation → Declaration
  | .add => Stock.addNumber
  | .subtract => Stock.subtractNumber
  | .multiply => Stock.multiplyNumber
  | .divide _ => Stock.divideNumber

/-- The command as the registry holds it. -/
def command (o : Operation) : Command where
  descriptor :=
    let names := o.declaration.name?.getD ("", "")
    .ofParameters names.1 names.2 o.declaration.parameters
  declaration := o.declaration

/-- The values of the command's slots for two numbers. -/
def slots (o : Operation) (x y : Double) : List Value :=
  match o with
  | .divide flipped => [.ofDouble x, .ofDouble y, .ofBool flipped]
  | _ => [.ofDouble x, .ofDouble y]

theorem resolve_eq {o : Operation} {name : String} (h : upper name = upper o.name) :
    Stock.registry.resolve name = .ok o.command := by
  rw [Registry.resolve_ok_iff, h]
  cases o with
  | divide flipped => cases flipped <;> rfl
  | _ => rfl

theorem invoke_slots (o : Operation) (x y : Double) (host : Host) :
    o.command.invoke (o.slots x y) host = Stock.giving (.ofDouble (o.apply x y)) := by
  cases o with
  | divide flipped => cases flipped <;> rfl
  | _ => rfl

end Operation

/-! ## One call -/

theorem Spread.eq_numbers {xs : List Double} {args : List Statement} (h : Spread false xs args) :
    args = xs.map .number := by
  generalize hflipped : false = flipped at h
  induction h with
  | nil => rfl
  | number x _ ih => rw [ih hflipped, List.map_cons]
  | flip _ _ => cases hflipped

/-- The switch among the numbers makes no difference but that it is on at the end. -/
theorem Spread.steps {d : Descriptor} {p : Slot}
    (hfind : ∀ name, lower name = lower "Flip" → d.findNamed? name = some p)
    (hswitch : p.isSwitch = true) {flipped : Bool} {xs : List Double} {args : List Statement}
    (h : Spread flipped xs args) {b : Binding} (hvacant : ∀ q ∈ b.vacant, q.index ≠ p.index)
    (hpipe : b.isFromPipe p = false) (s : Store) :
    b.steps d (d.items args) s =
      mapRun (turnOnIf p flipped) (b.steps d (xs.map fun x => .positional (.number x)) s) := by
  induction h generalizing b s with
  | nil => rfl
  | number x _ ih =>
      rw [Descriptor.items_positional rfl, List.map_cons, Binding.steps, Binding.steps]
      cases hstep : b.step d (.positional (.number x)) s with
      | mk result s' =>
          cases result with
          | error fault => rfl
          | ok b' =>
              have hadvances := step_advances hstep
              refine ih (fun q hq => ?_) ?_ s'
              · rw [hadvances.vacant_eq] at hq
                exact hvacant q (List.mem_of_mem_drop hq)
              · rw [isFromPipe, hadvances.fromPipe_eq]
                exact hpipe
  | @flip flipped xs args name hname _ ih =>
      have hstep : b.step d (.switch p) s = (.ok (b.turnOn p), s) := by
        simp only [step, hpipe, Bool.false_eq_true, if_false]
        rfl
      have hitems : ∀ item ∈ xs.map (fun x => Item.positional (.number x)),
          ∃ a, item = .positional a := by
        intro item hitem
        obtain ⟨x, -, rfl⟩ := List.mem_map.1 hitem
        exact ⟨_, rfl⟩
      rw [Descriptor.items_switch (hfind name hname) hswitch, Binding.steps, hstep]
      simp only
      rw [ih (b := b.turnOn p) hvacant hpipe, steps_turnOn hitems hvacant, mapRun_mapRun]
      simp only [turnOnIf_turnOn]
      rfl

namespace Operation

/-- The switch of the command that has one. -/
def flip : Slot := { name := "Flip", kind := .bool, initial := .ofBool false, index := 2 }

theorem named_divide (flipped : Bool) : (divide flipped).command.descriptor.named = [flip] := rfl

theorem findNamed?_flip {name : String} (h : lower name = lower "Flip") (flipped : Bool) :
    (divide flipped).command.descriptor.findNamed? name = some flip := by
  unfold Descriptor.findNamed?
  rw [named_divide, h]
  rfl

/-- The first operand of the command that has the switch. -/
def dividend : Slot where
  toParameter := (Stock.numberField "A" 0 false true
    fun s : Stock.Division => (s.a, fun a => { s with a })).parameter {}
  index := 0

/-- Dividing binds the numbers as if the switch were not there, and then has it on. -/
theorem bind_divide {flipped : Bool} {xs : List Double} {args : List Statement}
    (h : Spread flipped xs args) {piped? : Option Value} {b : Binding}
    (hpipe : ofPipe (divide flipped).command.descriptor piped? = .ok b)
    (hvacant : b.vacant ⊆ (divide flipped).command.descriptor.positional)
    (hfree : b.isFromPipe flip = false) (s : Store) :
    (divide flipped).command.descriptor.bind args piped? s =
      finishRun (divide flipped).command.descriptor (mapRun (turnOnIf flip flipped)
        (b.steps (divide flipped).command.descriptor
          (xs.map fun x => .positional (.number x)) s)) := by
  have hnumbered : (divide flipped).command.descriptor.Numbered :=
    Descriptor.numbered_ofParameters ..
  have hnamed : flip ∈ (divide flipped).command.descriptor.named :=
    List.mem_of_find?_eq_some (findNamed?_flip rfl flipped)
  rw [Descriptor.bind_of_ofPipe hpipe,
    h.steps (fun name hname => findNamed?_flip hname flipped) rfl
      (fun q hq => hnumbered.index_ne (hvacant hq) hnamed) hfree]

/-- Two numbers are bound in their order. -/
theorem bind_two {o : Operation} {x y : Double} {args : List Statement}
    (h : Spread o.flipped [x, y] args) (s : Store) :
    o.command.descriptor.bind args none s = (.ok (o.slots x y), s) := by
  cases o with
  | divide flipped =>
      have hargs : Spread flipped [x, y] args := h
      have hpipe : ofPipe (divide flipped).command.descriptor none = .ok (start _) := rfl
      rw [bind_divide hargs hpipe (List.Subset.refl _) rfl]
      cases flipped <;> rfl
  | _ =>
      rw [Spread.eq_numbers h]
      rfl

/-- A piped number is bound to the first operand, and the number of the call to the second. -/
theorem bind_one {o : Operation} {x y : Double} {args : List Statement}
    (h : Spread o.flipped [y] args) (s : Store) :
    o.command.descriptor.bind args (some (.ofDouble x)) s = (.ok (o.slots x y), s) := by
  cases o with
  | divide flipped =>
      have hargs : Spread flipped [y] args := h
      have hpipe : ofPipe (divide flipped).command.descriptor (some (.ofDouble x)) =
          .ok ((start _).ahead dividend (.ofDouble x)) := rfl
      rw [bind_divide hargs hpipe (fun q hq => (List.mem_filter.1 hq).1) rfl]
      cases flipped <;> rfl
  | _ =>
      rw [Spread.eq_numbers h]
      rfl

variable {o : Operation} {call : Call}

theorem Spells.ofCall_two {x y : Double} (h : o.Spells [x, y] call) (host : Host) (s : Store) :
    ofCall Stock.registry host call none s =
      { result := .ok (.ofDouble (o.apply x y)), store := s } :=
  ofCall_of_ok ⟨_, _, resolve_eq h.name_eq, bind_two h.args s, (invoke_slots o x y host).symm⟩ rfl

theorem Spells.ofCall_one {x y : Double} (h : o.Spells [y] call) (host : Host) (s : Store) :
    ofCall Stock.registry host call (some (.ofDouble x)) s =
      { result := .ok (.ofDouble (o.apply x y)), store := s } :=
  ofCall_of_ok ⟨_, _, resolve_eq h.name_eq, bind_one h.args s, (invoke_slots o x y host).symm⟩ rfl

end Operation

/-! ## Chains -/

/-- A call behind a pipe: an operation, its second operand, and how they are written. -/
structure Stage where
  operation : Operation
  operand : Double
  call : Call
  spells : operation.Spells [operand] call

namespace Stage

/-- What comes of a number at a stage. -/
def apply (x : Double) (stage : Stage) : Double := stage.operation.apply x stage.operand

/-- Stages take a piped number from one to the next. -/
theorem ofChain_eq (host : Host) (s : Store) (stages : List Stage) (x : Double) :
    ofChain Stock.registry host (stages.map (·.call)) (some (.ofDouble x)) s =
      { result := .ok (.ofDouble (stages.foldl apply x)), store := s } := by
  induction stages generalizing x with
  | nil => rfl
  | cons stage stages ih =>
      rw [List.map_cons, ofChain, stage.spells.ofCall_one]
      simp only [ih]
      rfl

end Stage

end Arithmetic

open Arithmetic Evaluation

/-- A chain of arithmetic commands is a fold from the left.  It always succeeds, writes nothing and
leaves the store as it is. -/
theorem arithmetic_chain_folds_left (host : Host) (store : Store) (first : Operation)
    (x y : Double) (call : Call) (hfirst : first.Spells [x, y] call) (later : List Stage) :
    ofChain Stock.registry host (call :: later.map (·.call)) none store =
      { result := .ok (.ofDouble
          (later.foldl (fun z stage => stage.operation.apply z stage.operand) (first.apply x y))),
        store, writes := [] } := by
  rw [ofChain, hfirst.ofCall_two]
  simp only [Stage.ofChain_eq]
  rfl

/-- Four stages in all letter cases: five from ten, four times that, and forty by the result with
the switch in front of the number. -/
theorem arithmetic_chain_folds_left_four :
    let number (n : Int) : Double := Binary.ofInt .binary64 n
    ofChain Stock.registry .plain
      [⟨"add-number", [.number (number 3), .number (number 7)]⟩,
       ⟨"SUBTRACT-NUMBER", [.number (number 5)]⟩,
       ⟨"mULTIPLY-nUMBER", [.number (number 4)]⟩,
       ⟨"Divide-Number", [.flag "fLIP", .number (number 40)]⟩] none {} =
      { result := .ok (.ofDouble (number 2)), store := {}, writes := [] } := by
  intro number
  have hfold := arithmetic_chain_folds_left .plain {} .add (number 3) (number 7)
    ⟨"add-number", [.number (number 3), .number (number 7)]⟩
    ⟨by decide +kernel, .number _ (.number _ .nil)⟩
    [⟨.subtract, number 5, ⟨"SUBTRACT-NUMBER", [.number (number 5)]⟩,
       ⟨by decide +kernel, .number _ .nil⟩⟩,
     ⟨.multiply, number 4, ⟨"mULTIPLY-nUMBER", [.number (number 4)]⟩,
       ⟨by decide +kernel, .number _ .nil⟩⟩,
     ⟨.divide true, number 40, ⟨"Divide-Number", [.flag "fLIP", .number (number 40)]⟩,
       ⟨by decide +kernel, .flip (by decide +kernel) (.number _ .nil)⟩⟩]
  have hvalue : Binary.div (number 40) (Binary.mul (Binary.sub (Binary.add (number 3) (number 7))
      (number 5)) (number 4)) = number 2 := by
    decide +kernel
  simpa only [List.map_cons, List.map_nil, List.foldl_cons, List.foldl_nil, Operation.apply,
    hvalue] using hfold

end VerbNoun
