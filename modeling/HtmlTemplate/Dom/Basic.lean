set_option autoImplicit false

namespace HtmlTemplate

inductive Dom where
  | element (name : String) (attributes : List (String × String)) (children : List Dom)
  | text (s : String)
  | comment (s : String)
  | doctype (name : String)
deriving Inhabited

namespace Dom

inductive Kind where
  | element
  | text
  | comment
  | doctype
deriving DecidableEq, Repr

def kind : Dom → Kind
  | .element _ _ _ => .element
  | .text _ => .text
  | .comment _ => .comment
  | .doctype _ => .doctype

def name : Dom → String
  | .element name _ _ => name
  | .doctype name => name
  | .text _ | .comment _ => ""

def attributes : Dom → List (String × String)
  | .element _ attributes _ => attributes
  | .text _ | .comment _ | .doctype _ => []

def children : Dom → List Dom
  | .element _ _ children => children
  | .text _ | .comment _ | .doctype _ => []

def content : Dom → String
  | .text s => s
  | .comment s => s
  | .element _ _ _ | .doctype _ => ""

mutual
def same : Dom → Dom → Bool
  | .element name attributes children, .element name' attributes' children' =>
    name = name' && attributes = attributes' && sameAll children children'
  | .text s, .text s' => s = s'
  | .comment s, .comment s' => s = s'
  | .doctype s, .doctype s' => s = s'
  | _, _ => false
def sameAll : List Dom → List Dom → Bool
  | [], [] => true
  | node :: rest, node' :: rest' => same node node' && sameAll rest rest'
  | _, _ => false
end

mutual
theorem same_iff : (a b : Dom) → (same a b = true ↔ a = b)
  | .element name attributes children, b => by
    cases b <;> simp [same, sameAll_iff children, and_assoc]
  | .text s, b => by cases b <;> simp [same]
  | .comment s, b => by cases b <;> simp [same]
  | .doctype s, b => by cases b <;> simp [same]
theorem sameAll_iff : (as bs : List Dom) → (sameAll as bs = true ↔ as = bs)
  | [], bs => by cases bs <;> simp [sameAll]
  | a :: as, bs => by cases bs <;> simp [sameAll, same_iff a, sameAll_iff as]
end

instance : DecidableEq Dom := fun a b => decidable_of_iff _ (same_iff a b)

end Dom

end HtmlTemplate
