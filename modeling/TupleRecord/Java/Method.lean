import TupleRecord.Java.Comment

/-!
Methods of a class, as values that a `Writer` lays out. A body is a run of lines, empty lines and
blocks; a constructor is a method without a return type.
-/
namespace TupleRecord.Java

/-- A run of statements. -/
inductive Code where
  | done
  | line (text : Text) (next : Code)
  | blank (next : Code)
  | block (head : Text) (body next : Code)
  deriving DecidableEq, Repr

/-- A run of single lines. -/
def Code.ofLines : List Text → Code
  | [] => done
  | text :: texts => line text (ofLines texts)

structure Param where
  type : Text
  name : Text
  deriving DecidableEq, Repr

/-- The parameter as it is declared. -/
def Param.text (p : Param) : Text := p.type ++ " " ++ p.name

structure Method where
  doc : Option Text
  returnType : Option Text
  name : Text
  params : List Param
  body : Code
  deriving DecidableEq, Repr

/-- The declaration before its block. -/
def Method.signature (m : Method) : Text :=
  let params := List.intercalate ", " (m.params.map Param.text)
  match m.returnType with
  | some type => "public " ++ type ++ " " ++ m.name ++ "(" ++ params ++ ")"
  | none => "public " ++ m.name ++ "(" ++ params ++ ")"

namespace Writer

def code (w : Writer) : Code → Writer
  | .done => w
  | .line text next => (w.line text).code next
  | .blank next => w.blank.code next
  | .block head body next => ((w.openBlock head).code body).closeBlock.code next

def method (w : Writer) (m : Method) : Writer :=
  let documented := m.doc.elim w w.doc
  ((documented.openBlock m.signature).code m.body).closeBlock

/-- The operations on a writer, as values. -/
inductive Step where
  | line (text : Text)
  | blank
  | raw (text : Text)
  | openBlock (head : Text)
  | closeBlock
  | closeWith (text : Text)
  | indent
  | dedent
  | code (body : Code)
  | method (method : Method)
  | doc (text : Text)
  deriving DecidableEq, Repr

def step (w : Writer) : Step → Writer
  | .line text => w.line text
  | .blank => w.blank
  | .raw text => w.raw text
  | .openBlock head => w.openBlock head
  | .closeBlock => w.closeBlock
  | .closeWith text => w.closeWith text
  | .indent => w.indent
  | .dedent => w.dedent
  | .code body => w.code body
  | .method m => w.method m
  | .doc text => w.doc text

def run (w : Writer) (steps : List Step) : Writer := steps.foldl step w

end Writer
end TupleRecord.Java
