import ShareVault.Vault.Handler

/-! # Scripted handlers

    A handler that gives prepared answers, one after the other, and null when
    there are no more. It keeps a record of what it was asked.
-/

namespace ShareVault

/-- A prepared answer. -/
inductive ScriptedAnswer where
  /-- A value, which for a query must have the declared type. -/
  | value (v : Json)
  | fault (f : HandlerFault)

/-- What a handler was asked. -/
inductive HandlerCall where
  | execute (m : Message) (sender : Text) (funds : Int)
  | query (m : Message)

/-- The answers still to come, and the calls so far. -/
structure Scripted where
  commands : List ScriptedAnswer
  questions : List ScriptedAnswer
  calls : List HandlerCall

namespace Scripted

/-- The next of some answers, and the rest. -/
def next : List ScriptedAnswer → ScriptedAnswer × List ScriptedAnswer
  | [] => (.value .null, [])
  | a :: rest => (a, rest)

/-- Gives the next answer as it is. -/
def execute (s : Scripted) (m : Message) (sender : Text) (funds : Int) :
    Except HandlerFault Value × Scripted :=
  let (a, rest) := next s.commands
  let outcome := match a with
    | .value v => .ok (.json v)
    | .fault f => .error f
  (outcome, { s with commands := rest, calls := s.calls ++ [.execute m sender funds] })

/-- Gives the next answer as a value of the type that the query declares. -/
def query (s : Scripted) (m : Message) : Except HandlerFault Value × Scripted :=
  let (a, rest) := next s.questions
  let outcome := match a with
    | .value v => ((m.returns?.getD .any).load .value v).mapError .badAnswer
    | .fault f => .error f
  (outcome, { s with questions := rest, calls := s.calls ++ [.query m] })

instance : Handler Scripted where
  execute := execute
  query := query

end Scripted

end ShareVault
