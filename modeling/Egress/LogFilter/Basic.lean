import Egress.LogFilter.Directive

/-!
# Log filters

A filter is a list of directives between commas. Of the directives that speak of an event the most
specific one decides, of equally specific ones the last. A filter without any directive lets errors
pass. A text can be read strictly, so that one bad directive spoils it, or leniently, so that bad
directives are left out.
-/

namespace Egress

structure LogFilter where
  directives : List LogFilter.Directive
  deriving Repr, DecidableEq

namespace LogFilter

/-- The non-empty texts between commas. -/
def pieces (text : String) : List (List Char) :=
  (text.toList.splitOn ',').filter (fun piece => !piece.isEmpty)

/-- The filter of directives; without any of them errors pass. -/
def ofDirectives : List Directive → LogFilter
  | [] => ⟨[{ threshold := some .error }]⟩
  | ds => ⟨ds⟩

def parse? (text : String) : Option LogFilter :=
  ((pieces text).mapM Directive.parse?).map ofDirectives

def parseLenient (text : String) : LogFilter :=
  ofDirectives ((pieces text).filterMap Directive.parse?)

def decisive (f : LogFilter) (target : List Char) (fields : List (List Char)) : Option Directive :=
  (f.directives.filter (fun d => d.covers target fields)).foldl
    (fun best d =>
      match best with
      | none => some d
      | some b => if b.yieldsTo d then some d else some b)
    none

def admits (f : LogFilter) (target : String) (fields : List String) (level : Level) : Bool :=
  (f.decisive target.toList (fields.map String.toList)).any fun d => d.threshold.admits level

def passes (f : LogFilter) (e : Event) : Bool :=
  f.admits e.target e.fieldNames e.level

/-- The filter that a log level of the settings puts in force: it is meant for the program, and of
everything else warnings pass. -/
def ofLevel (level : String) : LogFilter :=
  parseLenient ("proxy_router=" ++ level ++ ",proxy_cli=" ++ level ++ ",warn")

end LogFilter

end Egress
