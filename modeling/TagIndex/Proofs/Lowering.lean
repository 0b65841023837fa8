import TagIndex.Concrete.Lower
import TagIndex.Proofs.Position

namespace TagIndex.Concrete

open Syntax (Position containerKindOf?)

/-- The kinds of nodes that declare something, and of those that hold declarations. -/
def declarationKinds : List String :=
  ["function_declaration", "variable_declaration", "container_field"]

def containerKinds : List String :=
  ["struct_declaration", "union_declaration", "enum_declaration", "opaque_declaration"]

/-- The first of some nodes with a property. -/
def first? (holds : Concrete → Bool) (nodes : List Concrete) : Option Concrete :=
  (nodes.filter holds).head?

def isEquals (node : Concrete) : Bool := !node.named && node.kind = "="

def isIdentifier (node : Concrete) : Bool := node.named && node.kind = "identifier"

def isKeyword (node : Concrete) : Bool :=
  !node.named && ["struct", "union", "enum", "opaque"].contains node.kind

/-- The initializer of a binding and its number among the children: the first named child that is no
extra, behind the first equals sign. -/
def initializer? (children : List Concrete) : Option (Concrete × Nat) :=
  ((children.zipIdx.dropWhile fun child => !child.1.isEquals).drop 1).find?
    fun child => child.1.named && !child.1.extra

/-- The name of a declaration. A field that has only a type of one identifier is named by it. -/
def name? (node : Concrete) : Option Span :=
  let called := first? (·.field = some "name") node.children
  let typed := first? (·.field = some "type") node.children
  let identifier := first? isIdentifier node.children
  if node.kind = "function_declaration" then (called.or identifier).map (·.span)
  else if node.kind = "variable_declaration" then identifier.map (·.span)
  else if node.kind = "container_field" then
    (called.or (typed.filter (·.kind = "identifier"))).map (·.span)
  else none

/-- The text of the name, empty without one. -/
def title (source : Bytes) (node : Concrete) : Bytes :=
  match node.name? with
  | none => []
  | some span => span.text source

/-- The text of the first keyword of the container that a node is bound to. -/
def word? (source : Bytes) (node : Concrete) : Option Bytes :=
  (initializer? node.children).bind fun init =>
    if init.1.kind ∈ containerKinds then
      (first? isKeyword init.1.children).map (·.span.text source)
    else none

/-- The node is bound to a container whose keyword is written `struct`, `union` or `enum`. -/
def HasWord (source : Bytes) (node : Concrete) : Prop :=
  ∃ word ∈ node.word? source,
    word ∈ [Bytes.ofString "struct", Bytes.ofString "union", Bytes.ofString "enum"]

instance (source : Bytes) (node : Concrete) : Decidable (node.HasWord source) :=
  inferInstanceAs (Decidable (∃ word ∈ node.word? source, _))

/-- A named binding of a struct, union or enum: the only node with declarations below it. -/
def Opens (source : Bytes) (node : Concrete) : Prop :=
  node.kind = "variable_declaration" ∧ node.name?.isSome ∧ node.HasWord source

instance (source : Bytes) (node : Concrete) : Decidable (node.Opens source) :=
  inferInstanceAs (Decidable (_ ∧ _ ∧ _))

/-- A binding of a container that is no struct, union or enum. -/
def Unsupported (source : Bytes) (node : Concrete) : Prop :=
  node.kind = "variable_declaration" ∧
    (∃ init ∈ initializer? node.children, init.1.kind ∈ containerKinds) ∧ ¬node.HasWord source

instance (source : Bytes) (node : Concrete) : Decidable (node.Unsupported source) :=
  inferInstanceAs (Decidable (_ ∧ _ ∧ _))

/-- A function, binding or field that gets a tag wherever the walk comes to it. -/
def Indexed (source : Bytes) (node : Concrete) : Prop :=
  node.kind ∈ declarationKinds ∧ node.name?.isSome ∧ ¬node.Unsupported source

instance (source : Bytes) (node : Concrete) : Decidable (node.Indexed source) :=
  inferInstanceAs (Decidable (_ ∧ _ ∧ _))

def wordKinds : List (Bytes × Kind) :=
  [(Bytes.ofString "struct", .structType), (Bytes.ofString "union", .unionType),
    (Bytes.ofString "enum", .enumType)]

/-- The kind of a declaration's tag. A binding counts by its initializer, a field by its type. -/
def tagKind? (source : Bytes) (node : Concrete) : Option Kind :=
  if node.kind = "function_declaration" then some .function
  else if node.kind = "variable_declaration" then
    match initializer? node.children with
    | none => some .binding
    | some (init, _) =>
      if init.kind ∈ containerKinds then (node.word? source).bind (wordKinds.lookup ·)
      else if init.kind = "error_set_declaration" then some .errorSet
      else if init.kind = "builtin_type" ∧ init.span.text source = Bytes.ofString "anyerror" then
        some .errorSet
      else some .binding
  else if node.kind = "container_field" then
    if (first? (·.field = some "name") node.children).isSome &&
        (first? (·.field = some "type") node.children).isSome then some .member
    else some .enumerant
  else none

/-- The declarations in the container that a node is bound to, each with the way to it: the number
of the container among the node's children, then the declaration's own. -/
def inner (node : Concrete) : List (Position × Concrete) :=
  match initializer? node.children with
  | none => []
  | some (init, a) =>
    (init.children.zipIdx.filter fun child =>
        child.1.named && declarationKinds.contains child.1.kind).map
      fun child => ([a, child.2], child.1)

/-! Lowering looks for the same children and tells the same kinds apart. -/

theorem isMemberKind_iff (kind : String) :
    isMemberKind kind ↔ kind = functionKind ∨ kind = bindingKind ∨ kind = fieldKind := by
  simp [isMemberKind, or_assoc]

theorem mem_declarationKinds {kind : String} : kind ∈ declarationKinds ↔ isMemberKind kind := by
  simp only [isMemberKind_iff, declarationKinds, List.mem_cons, List.not_mem_nil, or_false]
  rfl

theorem mem_containerKinds {kind : String} : kind ∈ containerKinds ↔ isContainerKind kind := by
  simp [containerKinds, isContainerKind, or_assoc]

theorem declarationKinds_contains (kind : String) :
    declarationKinds.contains kind = isMemberKind kind := by
  rw [Bool.eq_iff_iff, List.contains_iff_mem]
  exact mem_declarationKinds

theorem first?_eq_find? (holds : Concrete → Bool) (nodes : List Concrete) :
    first? holds nodes = nodes.find? holds := List.head?_filter

theorem first?_inField (role : String) (nodes : List Concrete) :
    first? (·.field = some role) nodes = inField? role nodes := first?_eq_find? _ _

theorem first?_identifier (nodes : List Concrete) :
    first? isIdentifier nodes = named? "identifier" nodes := first?_eq_find? _ _

theorem first?_keyword (nodes : List Concrete) :
    (first? isKeyword nodes).map (·.span) = keyword? nodes := by
  have hkeyword : isKeyword = fun node => !node.named && isContainerKeyword node.kind := by
    funext node
    simp [isKeyword, isContainerKeyword, Bool.or_assoc]
  rw [first?_eq_find?, keyword?, hkeyword]

theorem wordKinds_lookup (word : Bytes) : wordKinds.lookup word = containerKindOf? word := by
  unfold containerKindOf?
  split_ifs with hstruct hunion henum
  · rw [hstruct]
    decide
  · rw [hunion]
    decide
  · rw [henum]
    decide
  · have hother {word key : Bytes} (h : ¬word = key) : (word == key) = false := by simpa using h
    simp only [wordKinds, List.lookup_cons, List.lookup_nil, hother hstruct, hother hunion,
      hother henum]

theorem name?_eq (node : Concrete) :
    node.name? =
      if node.kind = functionKind then
        ((inField? "name" node.children).or (named? "identifier" node.children)).map (·.span)
      else if node.kind = bindingKind then (named? "identifier" node.children).map (·.span)
      else if node.kind = fieldKind then
        ((inField? "name" node.children).or
          ((inField? "type" node.children).filter (·.kind = "identifier"))).map (·.span)
      else none := by
  simp only [name?, first?_inField, first?_identifier]
  rfl

theorem word?_eq (source : Bytes) (node : Concrete) :
    node.word? source =
      (initializer? node.children).bind fun init =>
        if isContainerKind init.1.kind then (keyword? init.1.children).map (·.text source)
        else none := by
  have hword (init : Concrete) : (first? isKeyword init.children).map (·.span.text source) =
      (keyword? init.children).map (·.text source) := by
    rw [← first?_keyword, Option.map_map]
    rfl
  simp only [word?, hword, mem_containerKinds]

theorem tagKind?_eq (source : Bytes) (node : Concrete) :
    node.tagKind? source =
      if node.kind = functionKind then some .function
      else if node.kind = bindingKind then
        match initializer? node.children with
        | none => some .binding
        | some (init, _) =>
          if isContainerKind init.kind then (node.word? source).bind containerKindOf?
          else if init.kind = "error_set_declaration" then some .errorSet
          else if init.kind = "builtin_type" ∧
              init.span.text source = Bytes.ofString "anyerror" then some .errorSet
          else some .binding
      else if node.kind = fieldKind then
        if (inField? "name" node.children).isSome && (inField? "type" node.children).isSome then
          some .member
        else some .enumerant
      else none := by
  simp only [tagKind?, first?_inField, wordKinds_lookup, mem_containerKinds]
  rfl

theorem unsupported_iff {source : Bytes} {node : Concrete} :
    node.Unsupported source ↔ node.kind = bindingKind ∧
      (∃ init ∈ initializer? node.children, isContainerKind init.1.kind) ∧
      ¬node.HasWord source := by
  simp only [Unsupported, mem_containerKinds]
  rfl

theorem inner_of_initializer? {node init : Concrete} {a : Nat}
    (h : initializer? node.children = some (init, a)) :
    node.inner = (init.children.zipIdx.filter fun child =>
        child.1.named && isMemberKind child.1.kind).map fun child => ([a, child.2], child.1) := by
  simp only [inner, h, declarationKinds_contains]

theorem initializer?_eq_some {children : List Concrete} {init : Concrete} {a : Nat}
    (h : initializer? children = some (init, a)) : children[a]? = some init := by
  have hmem := List.mem_of_find?_eq_some h
  have hzip := (List.dropWhile_sublist _).mem (List.mem_of_mem_drop hmem)
  exact List.mem_zipIdx_iff_getElem?.mp hzip

theorem lowerInit_behind (source : Bytes) (children : List Concrete) (n : Nat) :
    lowerInit source true children =
      ((children.zipIdx n).find? fun child => child.1.named && !child.1.extra).map
        fun init => lower source init.1 := by
  induction children generalizing n with
  | nil => rfl
  | cons child rest ih =>
    rw [lowerInit, List.zipIdx_cons, List.find?_cons]
    by_cases h : child.named && !child.extra
    · simp [h]
    · simp [h, ih (n + 1)]

theorem lowerInit_eq (source : Bytes) (children : List Concrete) :
    lowerInit source false children =
      (initializer? children).map fun init => lower source init.1 := by
  have hgeneral (n : Nat) : lowerInit source false children =
      ((((children.zipIdx n).dropWhile fun child => !child.1.isEquals).drop 1).find?
        fun child => child.1.named && !child.1.extra).map fun init => lower source init.1 := by
    induction children generalizing n with
    | nil => rfl
    | cons child rest ih =>
      rw [lowerInit, List.zipIdx_cons, List.dropWhile_cons]
      by_cases h : child.isEquals
      · have hequals : (!child.named && decide (child.kind = "=")) = true := h
        simp [h, hequals, lowerInit_behind source rest (n + 1)]
      · have hequals : (!child.named && decide (child.kind = "=")) = false := by
          simpa [isEquals] using h
        simp [h, hequals, ih (n + 1)]
  exact hgeneral 0

theorem bindingKind_ne_functionKind : bindingKind ≠ functionKind := by decide

theorem fieldKind_ne_functionKind : fieldKind ≠ functionKind := by decide

theorem fieldKind_ne_bindingKind : fieldKind ≠ bindingKind := by decide

theorem not_isContainerKind_of_isMemberKind {kind : String} (h : isMemberKind kind) :
    ¬isContainerKind kind := by
  rcases (isMemberKind_iff kind).mp h with rfl | rfl | rfl <;> decide

theorem kind_cases (kind : String) :
    kind = functionKind ∨ kind = bindingKind ∨ kind = fieldKind ∨ isContainerKind kind ∨
      ¬isMemberKind kind ∧ ¬isContainerKind kind := by
  by_cases hmember : isMemberKind kind
  · rcases (isMemberKind_iff kind).mp hmember with h | h | h
    · exact .inl h
    · exact .inr (.inl h)
    · exact .inr (.inr (.inl h))
  · by_cases hcontainer : isContainerKind kind
    · exact .inr (.inr (.inr (.inl hcontainer)))
    · exact .inr (.inr (.inr (.inr ⟨hmember, hcontainer⟩)))

theorem lower_function {source : Bytes} {node : Concrete} (h : node.kind = functionKind) :
    lower source node = { shape := .function, name := node.name? } := by
  rcases node with ⟨kind, named, extra, error, missing, span, field, children⟩
  obtain rfl : kind = functionKind := h
  rw [lower, if_pos rfl, name?_eq, if_pos rfl, functionName?, identifier?]
  cases inField? "name" children <;> rfl

theorem lower_binding {source : Bytes} {node : Concrete} (h : node.kind = bindingKind) :
    lower source node =
      { shape := .binding, name := node.name?
        init := (initializer? node.children).map fun init => lower source init.1 } := by
  rcases node with ⟨kind, named, extra, error, missing, span, field, children⟩
  obtain rfl : kind = bindingKind := h
  rw [lower, if_neg bindingKind_ne_functionKind, if_pos rfl, lowerInit_eq, name?_eq,
    if_neg bindingKind_ne_functionKind, if_pos rfl, identifier?]

theorem lower_container {source : Bytes} {node : Concrete} (h : isContainerKind node.kind) :
    lower source node =
      { shape := .container, keyword := keyword? node.children
        members := lowerMembers source node.children } := by
  rcases node with ⟨kind, named, extra, error, missing, span, field, children⟩
  have hmember : ¬isMemberKind kind := fun hmember =>
    not_isContainerKind_of_isMemberKind hmember h
  rw [isMemberKind_iff, not_or, not_or] at hmember
  rw [lower, if_neg hmember.1, if_neg hmember.2.1, if_pos h]

theorem lower_field {source : Bytes} {node : Concrete} (h : node.kind = fieldKind) :
    lower source node =
      { shape := .field, name := node.name?
        typed := (inField? "name" node.children).isSome &&
          (inField? "type" node.children).isSome } := by
  rcases node with ⟨kind, named, extra, error, missing, span, field, children⟩
  obtain rfl : kind = fieldKind := h
  have hcontainer : ¬isContainerKind fieldKind := by decide
  rw [lower, if_neg fieldKind_ne_functionKind, if_neg fieldKind_ne_bindingKind, if_neg hcontainer,
    if_pos rfl, name?_eq, if_neg fieldKind_ne_functionKind, if_neg fieldKind_ne_bindingKind,
    if_pos rfl, lowerField]
  cases hname : inField? "name" children with
  | some name => simp
  | none =>
    cases htype : inField? "type" children with
    | none => rfl
    | some type => by_cases hkind : type.kind = "identifier" <;> simp [Option.filter, hkind]

/-- Every other node keeps a shape at most. -/
theorem lower_rest {source : Bytes} {node : Concrete} (hmember : ¬isMemberKind node.kind)
    (hcontainer : ¬isContainerKind node.kind) :
    lower source node =
      { shape :=
          if node.kind = "error_set_declaration" then .errorSet
          else if node.kind = "builtin_type" ∧
              node.span.text source = Bytes.ofString "anyerror" then .errorType
          else .other } := by
  rcases node with ⟨kind, named, extra, error, missing, span, field, children⟩
  rw [isMemberKind_iff, not_or, not_or] at hmember
  rw [lower, if_neg hmember.1, if_neg hmember.2.1, if_neg hcontainer, if_neg hmember.2.2]
  split_ifs <;> rfl

theorem name?_of_not_isMemberKind {node : Concrete} (h : ¬isMemberKind node.kind) :
    node.name? = none := by
  rw [isMemberKind_iff, not_or, not_or] at h
  rw [name?_eq, if_neg h.1, if_neg h.2.1, if_neg h.2.2]

/-- A lowered node has the name of its origin. -/
theorem lower_name (source : Bytes) (node : Concrete) : (lower source node).name = node.name? := by
  rcases kind_cases node.kind with h | h | h | h | ⟨hmember, hcontainer⟩
  · rw [lower_function h]
  · rw [lower_binding h]
  · rw [lower_field h]
  · rw [lower_container h, name?_of_not_isMemberKind]
    exact fun hmember => not_isContainerKind_of_isMemberKind hmember h
  · rw [lower_rest hmember hcontainer, name?_of_not_isMemberKind hmember]

theorem lower_title (source : Bytes) (node : Concrete) :
    (lower source node).title source = node.title source := by
  cases hname : node.name? <;> simp [Syntax.Node.title, title, lower_name, hname]

theorem lower_keyword (source : Bytes) (node : Concrete) :
    (lower source node).keyword =
      if isContainerKind node.kind then keyword? node.children else none := by
  rcases kind_cases node.kind with h | h | h | h | ⟨hmember, hcontainer⟩
  · rw [lower_function h, h]
    rfl
  · rw [lower_binding h, h]
    rfl
  · rw [lower_field h, h]
    rfl
  · rw [lower_container h, if_pos h]
  · rw [lower_rest hmember hcontainer, if_neg hcontainer]

theorem lower_shape_eq_binding_iff {source : Bytes} {node : Concrete} :
    (lower source node).shape = .binding ↔ node.kind = bindingKind := by
  rcases kind_cases node.kind with h | h | h | h | ⟨hmember, hcontainer⟩
  · simp [lower_function h, h, bindingKind_ne_functionKind.symm]
  · simp [lower_binding h, h]
  · simp [lower_field h, h, fieldKind_ne_bindingKind]
  · have hbinding : node.kind ≠ bindingKind := by
      intro heq
      rw [heq] at h
      exact absurd h (by decide)
    simp [lower_container h, hbinding]
  · rw [isMemberKind_iff, not_or, not_or] at hmember
    rw [lower_rest (by simp [isMemberKind_iff, hmember]) hcontainer]
    simp only [hmember.2.1]
    split_ifs <;> simp

theorem lower_word? {source : Bytes} {node : Concrete} (h : node.kind = bindingKind) :
    (lower source node).word? source = node.word? source := by
  rw [Syntax.Node.word?, lower_binding h, word?_eq]
  cases initializer? node.children with
  | none => rfl
  | some init =>
    simp only [Option.map_some, Option.bind_some, lower_keyword]
    split_ifs <;> rfl

/-- What a binding is bound to gives the kind of its tag, lowered or not. -/
theorem lower_bindingKind? {source : Bytes} {node init : Concrete} {a : Nat}
    (h : initializer? node.children = some (init, a)) :
    Syntax.Node.bindingKind? source (some (lower source init)) =
      if isContainerKind init.kind then (node.word? source).bind containerKindOf?
      else if init.kind = "error_set_declaration" then some .errorSet
      else if init.kind = "builtin_type" ∧ init.span.text source = Bytes.ofString "anyerror" then
        some .errorSet
      else some .binding := by
  have hword : node.word? source = if isContainerKind init.kind then
      (keyword? init.children).map (·.text source) else none := by
    rw [word?_eq, h, Option.bind_some]
  rcases kind_cases init.kind with h | h | h | h | ⟨hmember, hcontainer⟩
  · rw [lower_function h, h]
    rfl
  · rw [lower_binding h, h]
    rfl
  · rw [lower_field h, h]
    rfl
  · rw [lower_container h, hword, if_pos h, if_pos h]
    cases hkeyword : keyword? init.children <;>
      simp [Syntax.Node.bindingKind?, Syntax.Node.containerKind?]
  · rw [lower_rest hmember hcontainer, if_neg hcontainer]
    split_ifs <;> rfl

theorem lower_kind? (source : Bytes) (node : Concrete) :
    (lower source node).kind? source = node.tagKind? source := by
  rw [tagKind?_eq]
  rcases kind_cases node.kind with h | h | h | h | ⟨hmember, hcontainer⟩
  · rw [lower_function h, if_pos h]
    rfl
  · rw [lower_binding h, if_neg (h ▸ bindingKind_ne_functionKind), if_pos h]
    cases hinit : initializer? node.children with
    | none => rfl
    | some init => exact lower_bindingKind? hinit
  · rw [lower_field h, if_neg (h ▸ fieldKind_ne_functionKind),
      if_neg (h ▸ fieldKind_ne_bindingKind), if_pos h]
    simp only [Syntax.Node.kind?]
    split_ifs <;> rfl
  · have hmember : ¬isMemberKind node.kind := fun hmember =>
      not_isContainerKind_of_isMemberKind hmember h
    rw [isMemberKind_iff, not_or, not_or] at hmember
    rw [lower_container h, if_neg hmember.1, if_neg hmember.2.1, if_neg hmember.2.2]
    rfl
  · rw [lower_rest hmember hcontainer]
    rw [isMemberKind_iff, not_or, not_or] at hmember
    rw [if_neg hmember.1, if_neg hmember.2.1, if_neg hmember.2.2]
    simp only [Syntax.Node.kind?]
    split_ifs <;> rfl

/-- A binding with a word is bound to a container. -/
theorem HasWord.container {source : Bytes} {node : Concrete} (h : node.HasWord source) :
    ∃ init a, initializer? node.children = some (init, a) ∧ isContainerKind init.kind := by
  obtain ⟨word, hword, _⟩ := h
  rw [word?_eq] at hword
  obtain ⟨⟨init, a⟩, hinit, hsome⟩ := Option.bind_eq_some_iff.mp hword
  refine ⟨init, a, hinit, ?_⟩
  by_contra hcontainer
  simp [hcontainer] at hsome

/-- The walk enters a lowered node exactly if the concrete one opens. -/
theorem lower_opens_iff {source : Bytes} {node : Concrete} :
    (lower source node).Opens source ↔ node.Opens source := by
  unfold Syntax.Node.Opens Opens
  rw [lower_shape_eq_binding_iff, lower_name]
  constructor
  · intro h
    obtain ⟨hkind, hname, _, hword⟩ := h
    rw [lower_word? hkind] at hword
    exact ⟨hkind, hname, hword⟩
  · intro h
    obtain ⟨hkind, hname, hword⟩ := h
    obtain ⟨init, a, hinit, hcontainer⟩ := hword.container
    have hshape : (lower source init).shape = .container := by rw [lower_container hcontainer]
    rw [lower_word? hkind, lower_binding hkind, hinit]
    exact ⟨hkind, hname, ⟨_, rfl, hshape⟩, hword⟩

theorem tagKind?_isSome_iff {source : Bytes} {node : Concrete} :
    (node.tagKind? source).isSome ↔ isMemberKind node.kind ∧ ¬node.Unsupported source := by
  rw [isMemberKind_iff, unsupported_iff, tagKind?_eq]
  by_cases hbinding : node.kind = bindingKind
  · rw [if_neg (hbinding ▸ bindingKind_ne_functionKind), if_pos hbinding]
    cases hinit : initializer? node.children with
    | none => simp [hbinding]
    | some init =>
      have hword : ((node.word? source).bind containerKindOf?).isSome ↔ node.HasWord source := by
        simp only [HasWord, ← Syntax.containerKindOf?_isSome_iff]
        cases node.word? source <;> simp
      by_cases hcontainer : isContainerKind init.1.kind
      · simp [hbinding, hcontainer, hword]
      · simp only [hcontainer]
        split_ifs <;> simp_all
  · split_ifs <;> simp_all

/-- The walk tags a lowered node exactly if the concrete one is indexed. -/
theorem lower_tagged_iff {source : Bytes} {node : Concrete} :
    (lower source node).Tagged source ↔ node.Indexed source := by
  unfold Syntax.Node.Tagged Indexed
  rw [lower_name, lower_kind?, tagKind?_isSome_iff, mem_declarationKinds]
  constructor
  · intro h
    exact ⟨h.2.2.1, h.2.1, h.2.2.2⟩
  · intro h
    obtain ⟨hmember, hname, hsupported⟩ := h
    refine ⟨?_, hname, hmember, hsupported⟩
    rcases (isMemberKind_iff _).mp hmember with h | h | h
    · simp [lower_function h]
    · simp [lower_binding h]
    · simp [lower_field h]

theorem lowerMembers_eq (source : Bytes) (children : List Concrete) (n : Nat) :
    lowerMembers source children =
      ((children.zipIdx n).filter fun child => child.1.named && isMemberKind child.1.kind).map
        fun child => lower source child.1 := by
  induction children generalizing n with
  | nil => rfl
  | cons child rest ih =>
    rw [lowerMembers, List.zipIdx_cons, List.filter_cons]
    by_cases h : child.named && isMemberKind child.kind
    · simp [h, ih (n + 1)]
    · simp [h, ih (n + 1)]

/-- Below a node that opens, lowering finds the same declarations in the same order. -/
theorem Opens.lower_inner {source : Bytes} {node : Concrete} (h : node.Opens source) :
    (lower source node).inner = node.inner.map fun member => lower source member.2 := by
  obtain ⟨hkind, _, hword⟩ := h
  obtain ⟨init, a, hinit, hcontainer⟩ := hword.container
  rw [Syntax.Node.inner, lower_binding hkind, inner_of_initializer? hinit, hinit]
  simp only [Option.map_some, lower_container hcontainer, lowerMembers_eq source _ 0, List.map_map]
  rfl

end TagIndex.Concrete
