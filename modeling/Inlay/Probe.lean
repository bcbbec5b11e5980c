import Inlay.Evaluation

/-!
# Probes

Routines that a host can register to look at how templates call it: they give
back their arguments in various shapes, return values that templates do not
know, fail in various ways, or leave a note of the call.
-/

namespace Inlay

namespace Probe

def alternate : List Value → List (Value × Value)
  | key :: value :: rest => (key, value) :: alternate rest
  | _ => []

def reply (v : Value) : HostReply := ⟨.value v, none⟩

def fault (className text : String) : HostReply := ⟨.fault className text, none⟩

/-- The probes, by name. -/
def host : Host
  | "echo", v :: _ => reply v
  | "echo", [] => fault "IndexError" "tuple index out of range"
  | "pair", vs => reply (.list .template vs)
  | "hostlist", vs => reply (.list .host vs)
  | "hostdict", vs =>
    match Dictionary.hostEntries (alternate vs) with
    | .ok entries => reply (.dictionary .host entries)
    | .error f => fault "TypeError" f.text
  | "count", vs => reply (.integer vs.length)
  | "none", _ => reply (.foreign .absent)
  | "set", _ => reply (.foreign .set)
  | "nested_none", _ =>
    reply (.list .host [.integer 1, .list .host [.foreign .absent]])
  | "dict_none", _ => reply (.dictionary .host [(.string "k", .foreign .absent)])
  | "boom", _ => fault "RuntimeError" "kaboom"
  | "boom_empty", _ => fault "RuntimeError" ""
  | "boom_key", _ => fault "KeyError" "'k'"
  | "boom_template", _ => fault "TypeMismatchError" "inner at line 9, column 9"
  | "boom_stack", _ => ⟨.stackExhausted, none⟩
  | "record", vs => ⟨.value (vs.headD (.string "")), some (Value.texts vs)⟩
  | name, _ => fault "RuntimeError" name

/-- The line that describes a probe which is registered without one. -/
def summary (name : String) : String :=
  if name = "record" then "Record a call." else ""

end Probe

end Inlay
