import TagCheck.Snapshot.Basic

/-!
# Core types

The classes and modules that every program has: what they inherit, what they include and the methods of
their instances.
-/

namespace TagCheck

/-- What is known of a class or module. `coreMethods` are the methods that it has without a
declaration. -/
structure TypeEntry where
  kind : TypeKind
  superclass : Option String
  includes : List String
  coreMethods : List String

def coreClass (name superclass : String) (includes methods : List String) :
    String × TypeEntry :=
  (name, ⟨.classType, some superclass, includes, methods⟩)

def coreModule (name : String) (methods : List String) : String × TypeEntry :=
  (name, ⟨.moduleType, none, [], methods⟩)

def coreTypes : List (String × TypeEntry) :=
  [
    ("BasicObject", ⟨.classType, none, [],
      ["!", "==", "!=", "equal?", "instance_eval", "__send__"]⟩),
    coreModule "Kernel" ["puts", "print", "raise", "require", "format", "loop"],
    coreModule "Comparable" ["<", "<=", ">", ">=", "between?", "clamp"],
    coreModule "Enumerable"
      ["each", "map", "select", "reject", "reduce", "to_a", "include?", "first"],
    coreClass "Object" "BasicObject" ["Kernel"]
      ["to_s", "inspect", "class", "nil?", "is_a?", "respond_to?", "hash", "freeze", "dup",
        "send", "tap"],
    coreClass "Module" "Object" [] ["name", "include", "extend", "attr_accessor", "const_get"],
    coreClass "Class" "Module" [] ["new", "allocate", "superclass"],
    coreClass "NilClass" "Object" [] ["to_a", "to_s", "to_i", "&", "|"],
    coreClass "TrueClass" "Object" [] ["&", "|", "^"],
    coreClass "FalseClass" "Object" [] ["&", "|", "^"],
    coreClass "Numeric" "Object" ["Comparable"] ["+", "-", "*", "/", "abs", "zero?", "to_i", "to_f"],
    coreClass "Integer" "Numeric" [] ["times", "succ", "pred", "to_s", "chr", "even?", "odd?"],
    coreClass "Float" "Numeric" [] ["round", "floor", "ceil", "nan?"],
    coreClass "String" "Object" ["Comparable"]
      ["to_s", "to_str", "to_sym", "to_i", "length", "size", "+", "upcase", "downcase",
        "strip", "split"],
    coreClass "Symbol" "Object" ["Comparable"] ["to_sym", "to_proc", "to_s", "length"],
    coreClass "Array" "Object" ["Enumerable"]
      ["each", "<<", "push", "pop", "size", "length", "last", "to_a", "to_ary", "[]", "[]="],
    coreClass "Hash" "Object" ["Enumerable"]
      ["each", "[]", "[]=", "keys", "values", "fetch", "to_h", "to_hash", "key?"],
    coreClass "Range" "Object" ["Enumerable"] ["each", "begin", "end", "cover?"],
    coreClass "Proc" "Object" [] ["call", "to_proc", "arity", "curry"],
    coreClass "Method" "Object" [] ["call", "to_proc", "arity", "owner"],
    coreClass "Regexp" "Object" [] ["match", "=~", "source"],
    coreClass "Exception" "Object" [] ["message", "backtrace", "full_message"],
    coreClass "StandardError" "Exception" [] [],
    coreClass "IO" "Object" ["Enumerable"] ["read", "write", "puts", "close"],
    coreClass "File" "IO" [] ["path"],
    coreClass "Time" "Object" ["Comparable"] ["to_i", "year", "month", "day"]
  ]

end TagCheck
