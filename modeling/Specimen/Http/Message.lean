namespace Specimen.Http

inductive Method where
  | get
  | head
  | post
  | delete
  | options
  | other (name : String)
  deriving DecidableEq

namespace Method

def ofText : String → Method
  | "GET" => .get
  | "HEAD" => .head
  | "POST" => .post
  | "DELETE" => .delete
  | "OPTIONS" => .options
  | name => .other name

end Method

structure Request where
  method : Method
  target : String
  headers : List (String × String)
  body : ByteArray

namespace Request

def header? (r : Request) (name : String) : Option String :=
  (r.headers.find? fun h => h.1.toLower = name).map Prod.snd

def path (r : Request) : List Char := r.target.toList.takeWhile fun c => c ≠ '?' ∧ c ≠ '#'

end Request

structure Response where
  status : Nat
  headers : List (String × String)
  body : String
  deriving DecidableEq

end Specimen.Http
