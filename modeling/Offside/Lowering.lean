import Offside.Lowering.Rules
import Offside.Script.Names

/-! Lowering whole programs. An engine keeps the templates it compiled from one program to the next. -/

namespace Offside.Lowering

structure Engine where
  vocabulary : Target.Vocabulary := .full
  templates : Template.Cache := {}

namespace Engine

/-- The pass before anything is lowered: every name of the program is reserved. -/
def start (engine : Engine) (program : Script.Program) : Pass :=
  .start program.names.eraseDups engine.templates

/-- Lowers a program. Templates compiled before a failure are kept. -/
def lower (engine : Engine) (program : Script.Program) : Except Fault Target.Program × Engine :=
  let (result, pass) := lowerProgram engine.vocabulary program (engine.start program)
  let checked := match result with
    | .ok lowered => if pass.frames.isEmpty then .ok lowered else .error (.frames .leftOver)
    | .error fault => .error fault
  (checked, { engine with templates := pass.templates })

end Engine

end Offside.Lowering
