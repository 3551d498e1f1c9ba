import FocusBilling.Compile.Rules

/-!
# The registry of compilers

* `RuleCompiler` : a compiler, by what it makes of a rule;
* `Registry` : which compiler is used for which kind of rule;
* `Registry.standard` : a compiler for every kind but `lookup`.
-/

namespace FocusBilling

/-- A compiler, by what it makes of a rule. -/
inductive RuleCompiler where
  | expression (compile : Compile.Compiler Assignment)
  | sql (compile : Compile.Compiler SqlStep)

/-- Which compiler is used for which kind of rule. -/
structure Registry where
  /-- The compiler of a kind. -/
  get : RuleKind → Option RuleCompiler

namespace Registry

/-- No compiler at all. -/
def empty : Registry := ⟨fun _ => none⟩

/-- A compiler for one more kind, in place of the one it had. -/
def register (r : Registry) (kind : RuleKind) (compiler : RuleCompiler) : Registry :=
  ⟨fun k => if k = kind then some compiler else r.get k⟩

/-- Whether a kind has a compiler. -/
def supports (r : Registry) (kind : RuleKind) : Bool := (r.get kind).isSome

/-- The kinds that have a compiler, in the order of declaration. -/
def kinds (r : Registry) : List RuleKind := RuleKind.all.filter r.supports

/-- The compiler that a kind has in the standard registry. -/
def standardCompiler : RuleKind → Option RuleCompiler
  | .convertTimezone => some (.expression Compile.convertTimezone)
  | .assignTimezone => some (.expression Compile.assignTimezone)
  | .assignUtcTimezone => some (.expression Compile.assignUtc)
  | .parseDatetime => some (.expression Compile.parseDatetime)
  | .sqlQuery => some (.sql Compile.sqlQuery)
  | .sqlCondition => some (.sql Compile.sqlCondition)
  | .renameColumn => some (.expression Compile.rename)
  | .unnest => some (.expression Compile.unnest)
  | .lookup => none
  | .mapValues => some (.expression Compile.mapValues)
  | .staticValue => some (.expression Compile.staticValue)
  | .applyDefaultIfColumnMissing => some (.expression Compile.defaultIfMissing)
  | .setColumnDtypes => some (.expression Compile.setDtype)

/-- A compiler for every kind but `lookup`. -/
def standard : Registry := ⟨standardCompiler⟩

end Registry

end FocusBilling
