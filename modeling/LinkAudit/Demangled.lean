import LinkAudit.Text.Blank

/-!
The text that a demangler gives for a name, and its cleaning for display: qualifiers of the
project's own modules go, and so do contexts that name a declaration by a hash.
-/

namespace LinkAudit.Demangled

/-- The characters after which a qualified name can begin. -/
def boundary : List Char := " \t\n\r(<[\x7b=:,&@*+->.?!'\"|/".toList

def startsName : Option Char → Bool
  | none => true
  | some c => boundary.contains c

/-- Drops each occurrence of the qualifier that begins a name. The arguments are the character
before the text and the number of characters of a dropped occurrence that are still to be passed
over. -/
def dropQualifierFrom (qualifier : Text) : Option Char → Nat → Text → Text
  | _, _, [] => []
  | _, skip + 1, c :: rest => dropQualifierFrom qualifier (some c) skip rest
  | before, 0, c :: rest =>
    if startsName before && qualifier.isPrefixOf (c :: rest) then
      dropQualifierFrom qualifier (some c) (qualifier.length - 1) rest
    else c :: dropQualifierFrom qualifier (some c) 0 rest

def dropQualifier (t moduleName : Text) : Text :=
  if moduleName.isEmpty then t else dropQualifierFrom (moduleName ++ ['.']) none 0 t

def isHashChar (c : Char) : Bool := c.isAlphanum

/-- The length of an anonymous context at the front of a text: blanks, the word `in`, blanks, and an
underscore with a hash. It is zero where there is none. -/
def contextLength (t : Text) : Nat :=
  let before := t.takeWhile Text.isBlank
  match t.dropWhile Text.isBlank with
  | 'i' :: 'n' :: rest =>
    let between := rest.takeWhile Text.isBlank
    match rest.dropWhile Text.isBlank with
    | '_' :: name =>
      let hash := name.takeWhile isHashChar
      if before.isEmpty || between.isEmpty || hash.isEmpty then 0
      else before.length + 2 + between.length + 1 + hash.length
    | _ => 0
  | _ => 0

/-- Drops the anonymous contexts, and then writes one space for two, once through. -/
def dropContexts (t : Text) : Text :=
  (t.substitute contextLength []).replace [' ', ' '] [' ']

def squeezeSpaces : Text → Text
  | ' ' :: ' ' :: rest => squeezeSpaces (' ' :: rest)
  | c :: rest => c :: squeezeSpaces rest
  | [] => []

def importMarker : Text := "__C.".toList

/-- Takes one module out of a text, as a qualifier and as the home of an extension. -/
def dropModule (t moduleName : Text) : Text :=
  ((dropQualifier t moduleName).replace
      ("(extension in ".toList ++ moduleName ++ [')']) "(extension)".toList).replace
    ("extension in ".toList ++ moduleName) "extension".toList

/-- The text for display, with the modules taken out in the order of their names. -/
def clean (t : Text) (modules : List Text) : Text :=
  let bare := (Text.distinct modules).foldl dropModule (t.replace importMarker [])
  (squeezeSpaces (dropContexts bare)).trimBlanks

end LinkAudit.Demangled
