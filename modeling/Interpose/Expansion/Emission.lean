import Interpose.Expansion.Emitted
import Interpose.Text.Quoted

/-!
# Emission

Model of the tokens that the functions of `veneer_macros::proxyable` quote (`expand_proxyable`,
`constructor_decl`, `signature`, `method_decl`, `arg_decoding`, `visibility_tokens`,
`trait_method_sig`, `fallible_spelling`, `wrapper_method`).

The tokens of an expansion: the block, the implementation that declares its surface, the wrapper,
and the implementation of the wrapper for every proxy of the type. Paths are spelled from the root,
so that nothing in scope where the block stands can capture them.

* `Expansion.tokens` : all of it, in this order.
-/

namespace Interpose.Expansion

open Source

/-! ## Pieces -/

/-- A text as a literal. -/
def textLiteral (s : String) : Token := .literal (Text.quoteLiteral s)

/-- An index as a literal with its type. -/
def indexLiteral (i : Nat) : Token := .literal (toString i ++ "usize")

/-- Tokens in angle brackets. -/
def angles (body : List Token) : List Token := .mark '<' false :: body ++ [.mark '>' false]

/-- A path into the library that the emitted code runs against. -/
def enginePath (rest : String) : List Token := phrase (":: veneer_engine :: " ++ rest)

/-- One of the constructors of a result, applied. -/
def resultOf (constructor : String) (body : List Token) : List Token :=
  phrase (":: std :: result :: Result :: " ++ constructor) ++ [parens body]

/-- The type of a result. -/
def resultType (ok err : List Token) : List Token :=
  phrase ":: std :: result :: Result" ++ angles (ok ++ .mark ',' false :: err)

/-- A call on what is built so far. -/
def chained (method : String) (args : List Token) : List Token :=
  [.mark '.' false, .word method, parens args]

/-- A trait of the library as the type implements it, and one of its functions. -/
def asTrait (t : Ty) (path : String) : List Token :=
  angles (t.tokens ++ .word "as" :: enginePath path)

/-- The conversion of what `body` computes into a value. -/
def toValue (t : Ty) (body : List Token) : List Token :=
  asTrait t "ToValue" ++ phrase ":: to_value" ++ [parens body]

/-! ## Descriptors -/

/-- The descriptor of a type. -/
def TypeNote.tokens : TypeNote → List Token
  | .native s => enginePath "TypeDesc :: Native" ++ [parens [textLiteral s]]
  | .unrepresentable s => enginePath "TypeDesc :: Unrepresentable" ++ [parens [textLiteral s]]
  | .converted t => asTrait t "ValueType" ++ phrase ":: type_desc" ++ [parens []]

/-- The descriptors of parameters. -/
def paramTokens (params : List ParamNote) : List Token :=
  params.flatMap fun p =>
    chained "with_param" (textLiteral p.name :: .mark ',' false :: p.type.tokens)

/-- The declared visibility. -/
def visibilityTokens (v : Visibility) : List Token :=
  chained "with_visibility" (enginePath ("Visibility :: " ++
    match v with
    | .exported => "Public"
    | .restricted => "Restricted"
    | .internal => "Private"))

/-- The declared receiver. -/
def receiverTokens (r : Receiver) : List Token :=
  enginePath ("Receiver :: " ++
    match r with
    | .static => "Static"
    | .shared => "Shared"
    | .exclusive => "Exclusive"
    | .owned => "Owned")

/-- The declared signature. -/
def SignatureCode.tokens (s : SignatureCode) : List Token :=
  enginePath "MethodSignature :: new" ++
    [parens (textLiteral s.name :: .mark ',' false :: receiverTokens s.receiver)] ++
    paramTokens s.params ++
    (match s.returns with
    | some t => chained "returns" t.tokens
    | none => []) ++
    (match s.failure with
    | some e => chained "fails_with" [textLiteral e]
    | none => []) ++
    visibilityTokens s.visibility ++
    if s.isFinal then chained "as_final" [] else []

/-! ## Thunks -/

/-- One variable for each parameter, decoded from the argument in its place. -/
def decodeTokens (params : List Binding) : List Token :=
  (params.zipIdx.flatMap fun (b, i) =>
    [.word "let", .word b.binder, .mark '=' false] ++ enginePath "glue :: arg ::" ++
      angles b.type.tokens ++
      [parens [.word "__args", .mark ',' false, indexLiteral i], .mark '?' false, .mark ';' false])

/-- The variables of the parameters. -/
def binderTokens (params : List Binding) : List Token :=
  commaBetween (params.map fun b => [.word b.binder])

/-- The function of the implementing type by its name. -/
def ofSelf (name : String) : List Token :=
  angles [.word "Self"] ++ operator "::" ++ [.word name]

/-- The type of the arguments of a thunk. -/
def argumentsType : List Token := [.mark '&' false, brackets (enginePath "Value")]

/-- A declared constructor. -/
def ConstructorCode.tokens (c : ConstructorCode) : List Token :=
  chained "constructor" (enginePath "ConstructorDecl ::" ++ angles [.word "Self"] ++ head ++
    paramTokens c.params ++ visibilityTokens c.visibility)
where
  head : List Token :=
    match c.build with
    | none => phrase ":: opaque" ++ [parens [textLiteral c.name]]
    | some (params, fallible) =>
      let call := ofSelf c.name ++ [parens (binderTokens params)]
      let body :=
        if fallible then call ++ chained "map_err" (enginePath "Failure :: raise")
        else resultOf "Ok" call
      phrase ":: new" ++ [parens (textLiteral c.name :: .mark ',' false ::
        phrase "| __args :" ++ argumentsType ++ phrase "| ->" ++
        resultType [.word "Self"] (enginePath "Failure") ++
        [braces (decodeTokens params ++ body), .mark ',' false])]

/-- The body of a thunk behind the decoding of its arguments. -/
def thunkBody (name : String) (t : ThunkCode) : List Token :=
  let call := ofSelf name ++ [parens (.word "__this" :: .mark ',' false :: binderTokens t.params)]
  match t.output with
  | .unit => call ++ .mark ';' false :: resultOf "Ok" (enginePath "Value :: Null")
  | .plain type => resultOf "Ok" (toValue type call)
  | .fallible ok _ =>
    .word "match" :: call ++
      [braces (
        resultOf "Ok" [.word "value"] ++ operator "=>" ++
          [braces (resultOf "Ok" (toValue ok [.word "value"]))] ++
        resultOf "Err" [.word "error"] ++ operator "=>" ++
          [braces (resultOf "Err" (enginePath "Failure :: raise" ++ [parens [.word "error"]]))])]

/-- A declared method. -/
def MethodCode.tokens (m : MethodCode) : List Token :=
  chained "method" (enginePath "MethodDecl ::" ++ angles [.word "Self"] ++
    match m.thunk with
    | none => phrase ":: opaque" ++ [parens m.signature.tokens]
    | some t =>
      [.mark ':' true, .mark ':' false, .word (if t.exclusive then "exclusive" else "shared"),
        parens (m.signature.tokens ++ .mark ',' false ::
          phrase "| __this : &" ++ (if t.exclusive then [.word "mut"] else []) ++
          phrase "Self , __args :" ++ argumentsType ++ phrase "| ->" ++
          resultType (enginePath "Value") (enginePath "Failure") ++
          [braces (decodeTokens t.params ++ thunkBody m.signature.name t), .mark ',' false])])

/-! ## The wrapper -/

/-- The result of a wrapper method. -/
def outputTokens : Output → List Token
  | .unit => []
  | .plain t => operator "->" ++ t.tokens
  | .fallible ok err => operator "->" ++ resultType ok.tokens err.tokens

/-- The signature of a wrapper method. A comma stands behind the receiver in any case. -/
def WrapperCode.signatureTokens (w : WrapperCode) : List Token :=
  [.word "fn", .word w.name, parens (
    .mark '&' false :: (if w.exclusive then [.word "mut"] else []) ++
      [.word "self", .mark ',' false] ++
      commaBetween (w.params.map fun b => .word b.binder :: .mark ':' false :: b.type.tokens))] ++
    outputTokens w.output

/-- The body of a wrapper method. -/
def WrapperCode.bodyTokens (selfType : Ty) (w : WrapperCode) : List Token :=
  match w.index with
  | some index =>
    let args := commaBetween (w.params.map fun b => toValue b.type [.word b.binder])
    let call := phrase (if w.exclusive then "self . call_mut" else "self . call_ref") ++
      [parens (indexLiteral index :: .mark ',' false :: phrase ":: std :: vec !" ++ [brackets args])]
    let finish (path : String) (types : List Token) : List Token :=
      enginePath path ++ angles types ++ [parens (call ++ [.mark ',' false, textLiteral w.name])]
    match w.output with
    | .unit => finish "glue :: complete ::" [parens []]
    | .plain t => finish "glue :: complete ::" t.tokens
    | .fallible ok err =>
      finish "glue :: complete_fallible ::" (ok.tokens ++ .mark ',' false :: err.tokens)
  | none =>
    let target := phrase (if w.exclusive then "self . target_mut" else "self . target")
    angles selfType.tokens ++ operator "::" ++
      [.word w.name, parens (target ++ [parens [], .mark ',' false] ++ binderTokens w.params)]

/-! ## The whole -/

/-- The sentence that documents a wrapper. -/
def wrapperSentence (simple : String) : String :=
  "Typed methods of `" ++ simple ++
    "` on proxy instances; intercepted methods route through the bound interceptor."

/-- The qualified name: the one that is given, or the name in the module where the block stands. -/
def qualifiedTokens (e : Expansion) : List Token :=
  match e.qualified with
  | some text => [.literal text]
  | none =>
    phrase "concat !" ++ [parens (phrase "module_path !" ++
      [parens [], .mark ',' false, textLiteral "::", .mark ',' false, textLiteral e.simple])]

/-- The implementation that declares the surface. -/
def surfaceTokens (e : Expansion) : List Token :=
  let declared := enginePath "TypeDecl :: new" ++
    [parens (e.qualifiedTokens ++ [.mark ',' false, textLiteral e.simple])] ++
    (if e.isSealed then chained "sealed" [] else []) ++
    e.constructors.flatMap ConstructorCode.tokens ++ e.methods.flatMap MethodCode.tokens
  .word "impl" :: enginePath "Proxyable for" ++ e.block.selfType.tokens ++
    [braces (phrase "fn declared_type" ++ [parens []] ++ operator "->" ++ enginePath "TypeDecl" ++
      angles [.word "Self"] ++ [braces declared])]

/-- The wrapper. -/
def wrapperTokens (e : Expansion) : List Token :=
  [.mark '#' false, brackets [.word "doc", .mark '=' false, textLiteral (wrapperSentence e.simple)],
    .word "pub", .word "trait", .word e.wrapper,
    braces (e.wrappers.flatMap fun w => w.signatureTokens ++ [.mark ';' false])]

/-- The implementation of the wrapper for proxies. -/
def proxyTokens (e : Expansion) : List Token :=
  .word "impl" :: angles (phrase "__I :" ++ enginePath "Interceptor") ++
    [.word e.wrapper, .word "for"] ++ enginePath "ProxyInstance" ++
    angles (e.block.selfType.tokens ++ phrase ", __I") ++
    [braces (e.wrappers.flatMap fun w =>
      [.mark '#' false, brackets [.word "inline"]] ++ w.signatureTokens ++
        [braces (w.bodyTokens e.block.selfType)])]

/-- The tokens of an expansion. -/
def tokens (e : Expansion) : List Token :=
  e.block.tokens ++ e.surfaceTokens ++ e.wrapperTokens ++ e.proxyTokens

/-- The text of an expansion. -/
def text (e : Expansion) : String := spell e.tokens

end Interpose.Expansion
