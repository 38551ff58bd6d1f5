import Offside.Proofs.LeafSteps

/-! The names that a script makes lowering make up, in order. They can be read off the tree: a
cascade takes a name for its root and for every step that a deeper one follows, and a chain of
comparisons for every operand between two of them. Each is declared in the nearest scope, which only
the bodies of blocks, functions and programs open. -/

namespace Offside

namespace Script

/-- A name that is to be made up. -/
structure Minting where
  stem : String
  /-- Whether the nearest scope is one inside the node, and not the one around it. -/
  inner : Bool
deriving DecidableEq, Repr

/-- The same seen from outside a body. -/
def Minting.within (minting : Minting) : Minting := { minting with inner := true }

open Lowering (rootStem cascadeStem tempStem)

mutual

def Expr.mintings : Expr → List Minting
  | .identifier .. | .literal .. | .thisObject _ | .virtualObject _ | .compareChain _ [] _ => []
  | .array _ items | .sequence _ items => exprMintings items
  | .object _ properties => propertyMintings properties
  | .function _ definition => definition.mintings
  | .unary _ _ argument | .awaiting _ argument => argument.mintings
  | .binary _ _ left right | .logical _ _ left right | .assignment _ _ left right
  | .member _ left right _ => left.mintings ++ right.mintings
  | .conditional _ test consequent alternate =>
    test.mintings ++ consequent.mintings ++ alternate.mintings
  | .call _ callee arguments | .construct _ callee arguments =>
    callee.mintings ++ exprMintings arguments
  | .yielding _ argument _ => optionMintings argument
  | .compareChain _ (first :: operands) _ => first.mintings ++ chainMintings operands

def exprMintings : List Expr → List Minting
  | [] => []
  | expr :: exprs => expr.mintings ++ exprMintings exprs

def optionMintings : Option Expr → List Minting
  | none => []
  | some expr => expr.mintings

/-- The operands of a chain after the first one. The last one needs no name. -/
def chainMintings : List Expr → List Minting
  | [] => []
  | operand :: operands =>
    (if operands.isEmpty then [] else [⟨tempStem, false⟩]) ++ operand.mintings ++
      chainMintings operands

def Property.mintings : Property → List Minting
  | .keyValue _ key value => key.mintings ++ value.mintings
  | .method _ key definition => key.mintings ++ definition.mintings

def propertyMintings : List Property → List Minting
  | [] => []
  | property :: properties => property.mintings ++ propertyMintings properties

/-- Parameters stand in the scope around the function. -/
def Function.mintings : Function → List Minting
  | .mk _ params body _ _ _ => exprMintings params ++ body.mintings

def Block.mintings : Block → List Minting
  | .mk _ body => (stmtMintings body).map Minting.within

def handlerMintings : Option Catch → List Minting
  | none => []
  | some (.mk _ param body) => optionMintings param ++ body.mintings

def finalizerMintings : Option Block → List Minting
  | none => []
  | some block => block.mintings

def Declarator.mintings : Declarator → List Minting
  | .mk _ id init _ => id.mintings ++ optionMintings init

def declaratorMintings : List Declarator → List Minting
  | [] => []
  | declarator :: declarators => declarator.mintings ++ declaratorMintings declarators

def Stmt.mintings : Stmt → List Minting
  | .expression _ value | .throwing _ value => value.mintings
  | .block _ body => body.mintings
  | .empty _ | .breaking _ | .continuing _ => []
  | .ifElse _ test consequent none => test.mintings ++ consequent.mintings
  | .ifElse _ test consequent (some alternate) =>
    test.mintings ++ consequent.mintings ++ alternate.mintings
  | .whileLoop _ test body => test.mintings ++ body.mintings
  | .doWhile _ body test => body.mintings ++ test.mintings
  | .forIn _ left right body | .forOf _ left right body =>
    left.mintings ++ right.mintings ++ body.mintings
  | .returning _ argument | .yielding _ argument => optionMintings argument
  | .trying _ block handler finalizer =>
    block.mintings ++ handlerMintings handler ++ finalizerMintings finalizer
  | .declaring _ declarators => declaratorMintings declarators
  | .function _ id definition => id.mintings ++ definition.mintings
  | .assignment _ _ left right => left.mintings ++ right.mintings
  | .cascade _ root steps degrees =>
    ⟨rootStem, false⟩ :: root.mintings ++ stepMintings degrees steps

def stmtMintings : List Stmt → List Minting
  | [] => []
  | stmt :: stmts => stmt.mintings ++ stmtMintings stmts

/-- A step takes a name if the next one is deeper. -/
def stepMintings (degrees : List Nat) : List Stmt → List Minting
  | [] => []
  | step :: steps =>
    match degrees with
    | [] => []
    | degree :: degrees =>
      (if degrees.head?.getD 0 ≤ degree then [] else [⟨cascadeStem, false⟩]) ++ step.mintings ++
        stepMintings degrees steps

end

end Script

namespace Lowering

open Script (Minting)

/-- Makes up names one after the other, where some are reserved. -/
def nameAll (reserved : List String) : List Minting → List (Minting × String)
  | [] => []
  | minting :: mintings =>
    (minting, freeName minting.stem reserved) ::
      nameAll (freeName minting.stem reserved :: reserved) mintings

/-- The names made up, in order. -/
def mintedNames (reserved : List String) (mintings : List Minting) : List String :=
  (nameAll reserved mintings).map Prod.snd

/-- The names made up for the scope around the node, in order. -/
def ownNames (reserved : List String) (mintings : List Minting) : List String :=
  ((nameAll reserved mintings).filter fun entry => !entry.1.inner).map Prod.snd

/-- The names that may not be made up after some were. -/
def reservedAfter (reserved : List String) (mintings : List Minting) : List String :=
  (mintedNames reserved mintings).reverse ++ reserved

theorem nameAll_append (reserved : List String) (first second : List Minting) :
    nameAll reserved (first ++ second) =
      nameAll reserved first ++ nameAll (reservedAfter reserved first) second := by
  induction first generalizing reserved with
  | nil => rfl
  | cons minting first ih => simp [nameAll, ih, reservedAfter, mintedNames]

theorem ownNames_append (reserved : List String) (first second : List Minting) :
    ownNames reserved (first ++ second) =
      ownNames reserved first ++ ownNames (reservedAfter reserved first) second := by
  simp [ownNames, nameAll_append]

theorem reservedAfter_append (reserved : List String) (first second : List Minting) :
    reservedAfter reserved (first ++ second) =
      reservedAfter (reservedAfter reserved first) second := by
  simp [reservedAfter, mintedNames, nameAll_append]

theorem mintedNames_within (reserved : List String) (mintings : List Minting) :
    mintedNames reserved (mintings.map Minting.within) = mintedNames reserved mintings := by
  induction mintings generalizing reserved with
  | nil => rfl
  | cons minting mintings ih => exact congrArg (_ :: ·) (ih _)

/-- From outside, a body takes no names for the scope around it. -/
private theorem ownNames_within (reserved : List String) (mintings : List Minting) :
    ownNames reserved (mintings.map Minting.within) = [] := by
  induction mintings generalizing reserved with
  | nil => rfl
  | cons minting mintings ih => exact ih _

variable {pass middle later : Pass}

/-- What a pass spent on names: they are reserved, and those for the nearest scope wait in it to be
declared. -/
structure Spent (mintings : List Minting) (pass later : Pass) : Prop where
  frames : later.frames = extendScope (ownNames pass.reserved mintings) pass.frames
  reserved : later.reserved = reservedAfter pass.reserved mintings

theorem Spent.none (frames : later.frames = pass.frames)
    (reserved : later.reserved = pass.reserved) : Spent [] pass later :=
  ⟨by rw [frames]; exact (extendScope_nil _).symm, reserved⟩

theorem Spent.append {first second : List Minting} (spent : Spent first pass middle)
    (more : Spent second middle later) : Spent (first ++ second) pass later where
  frames := by
    rw [more.frames, spent.frames, spent.reserved, extendScope_extendScope, ownNames_append]
  reserved := by rw [more.reserved, spent.reserved, reservedAfter_append]

/-- A step that, if it succeeds, spends names as given. -/
def Spends (mintings : List Minting) (step : Lower α) : Prop :=
  ∀ pass a later, step pass = (.ok a, later) → Spent mintings pass later

/-- The same for the steps of a cascade, below whose frame the names are declared. -/
def SpendsBelow (mintings : List Minting) (step : Lower α) : Prop :=
  ∀ pass a later held outer, pass.frames = .cascade held :: outer → step pass = (.ok a, later) →
    (∃ left, later.frames = .cascade left :: extendScope (ownNames pass.reserved mintings) outer) ∧
      later.reserved = reservedAfter pass.reserved mintings

namespace Spends

variable {first second mintings : List Minting}

theorem silent {shape : α → Prop} {step : Lower α} (silent : Silent shape step) :
    Spends [] step := by
  intro pass a later ran
  obtain ⟨rfl, -⟩ := silent pass a later ran
  exact .none rfl rfl

theorem pure (a : α) : Spends [] (pure a) := silent (Silent.pure rfl : Silent (· = a) _)

theorem fail (fault : Fault) : Spends mintings (.fail fault : Lower α) := by
  intro pass a later ran
  cases ran

theorem bind {step : Lower α} {next : α → Lower β} (spends : Spends first step)
    (rest : ∀ a, Spends second (next a)) : Spends (first ++ second) (step >>= next) := by
  intro pass b later ran
  obtain ⟨a, middle, ran, continued⟩ := Lower.bind_eq_ok.mp ran
  exact (spends pass a middle ran).append (rest a middle b later continued)

/-- A step before which nothing is spent. -/
theorem skip {shape : α → Prop} {step : Lower α} {next : α → Lower β} (quiet : Silent shape step)
    (rest : ∀ a, Spends mintings (next a)) : Spends mintings (step >>= next) :=
  (silent quiet).bind rest

/-- A step after which nothing is spent. -/
theorem last {step : Lower α} {next : α → Lower β} (spends : Spends mintings step)
    (rest : ∀ a, Spends [] (next a)) : Spends mintings (step >>= next) := by
  simpa using spends.bind rest

theorem fresh (stem : String) : Spends [⟨stem, false⟩] (freshName stem) := by
  intro pass name later ran
  obtain ⟨-, rfl, rfl⟩ := freshName_eq_ok.mp ran
  exact ⟨pass.mint_free_frames stem, rfl⟩

theorem surroundings : Spends [] surroundings := by
  intro pass frames later ran
  cases ran
  exact .none rfl rfl

theorem instantiate (vocabulary : Target.Vocabulary) (source : String)
    (bindings : Template.Bindings) (loc : Option Location) :
    Spends [] (instantiate vocabulary source bindings loc) := by
  have compiled : Spends [] (template source) := by
    intro pass entry later ran
    obtain ⟨-, rfl⟩ := Prod.mk.inj ran
    exact .none rfl rfl
  have built (entry : Template) :
      Silent (fun _ => True) (.ofExcept (entry.expression vocabulary bindings loc)) :=
    .result fun _ _ => trivial
  exact compiled.last fun entry => silent (built entry)

theorem withMethod {step : Lower α} (spends : Spends mintings step) :
    Spends mintings (step.withFrame .method) := by
  intro pass result later ran
  obtain ⟨inner, inside, -, rfl⟩ := Lower.withFrame_eq_ok.mp ran
  have spent := spends _ _ _ inside
  refine ⟨?_, spent.reserved⟩
  rw [Pass.pop_frames, spent.frames]
  rfl

/-- A scope holds at its end the names that were made up for it, and nothing is left for the scope
around it. -/
theorem scope_eq {step : Lower α} (spends : Spends mintings step)
    (ran : step.withFrame .scope pass = (.ok result, later)) :
    result.2 = .scope (ownNames pass.reserved mintings) ∧
      Spent (mintings.map Minting.within) pass later := by
  obtain ⟨inner, inside, top, rfl⟩ := Lower.withFrame_eq_ok.mp ran
  have spent := spends _ _ _ inside
  have frames : inner.frames = .scope (ownNames pass.reserved mintings) :: pass.frames :=
    spent.frames
  rw [frames] at top
  refine ⟨(Option.some.inj top).symm, ?_, ?_⟩
  · rw [ownNames_within, extendScope_nil]
    simp [frames]
  · rw [reservedAfter, mintedNames_within]
    exact spent.reserved

end Spends

namespace SpendsBelow

variable {first second mintings : List Minting}

theorem pure (a : α) : SpendsBelow [] (pure a) := by
  intro pass b later held outer top ran
  cases ran
  exact ⟨⟨held, by rw [top]; exact congrArg _ (extendScope_nil _).symm⟩, rfl⟩

theorem fail (fault : Fault) : SpendsBelow mintings (.fail fault : Lower α) := by
  intro pass a later held outer _ ran
  cases ran

theorem bind {step : Lower α} {next : α → Lower β} (spends : SpendsBelow first step)
    (rest : ∀ a, SpendsBelow second (next a)) : SpendsBelow (first ++ second) (step >>= next) := by
  intro pass b later held outer top ran
  obtain ⟨a, middle, ran, continued⟩ := Lower.bind_eq_ok.mp ran
  obtain ⟨⟨between, frames⟩, reserved⟩ := spends pass a middle held outer top ran
  obtain ⟨⟨left, framesLater⟩, reservedLater⟩ := rest a middle b later between _ frames continued
  refine ⟨⟨left, ?_⟩, ?_⟩
  · rw [framesLater, reserved, extendScope_extendScope, ownNames_append]
  · rw [reservedLater, reserved, reservedAfter_append]

/-- A step after which nothing is spent. -/
theorem last {step : Lower α} {next : α → Lower β} (spends : SpendsBelow mintings step)
    (rest : ∀ a, SpendsBelow [] (next a)) : SpendsBelow mintings (step >>= next) := by
  simpa using spends.bind rest

theorem general {step : Lower α} (spends : Spends mintings step) : SpendsBelow mintings step := by
  intro pass a later held outer top ran
  have spent := spends pass a later ran
  refine ⟨⟨held, ?_⟩, spent.reserved⟩
  rw [spent.frames, top]
  rfl

theorem receivers : SpendsBelow [] (receivers true) := by
  intro pass a later held outer top ran
  obtain ⟨-, rfl⟩ := receivers_eq_ok.mp ran
  exact ⟨⟨held, by rw [top]; exact congrArg _ (extendScope_nil _).symm⟩, rfl⟩

theorem setReceivers (names : List String) : SpendsBelow [] (setReceivers true names) := by
  intro pass a later held outer top ran
  obtain ⟨-, rfl⟩ := setReceivers_eq_ok.mp ran
  exact ⟨⟨names, by simp [top, ownNames, nameAll]⟩, rfl⟩

theorem withCascade {step : Lower α} (spends : SpendsBelow mintings step) (name : String) :
    Spends mintings (step.withFrame (.cascade name)) := by
  intro pass result later ran
  obtain ⟨inner, inside, -, rfl⟩ := Lower.withFrame_eq_ok.mp ran
  obtain ⟨⟨left, frames⟩, reserved⟩ := spends _ _ _ [name] pass.frames rfl inside
  exact ⟨by simp [frames], reserved⟩

end SpendsBelow

end Lowering

end Offside
