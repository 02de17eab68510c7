/-!
The registry: every kind of diagnostic that the compiler is known to report, the key that it prints
for the kind, and the group that the kind belongs to.
-/

namespace DiagnosticSieve

inductive Group
  | checkTypes | missingProperties | reportUnknownTypes | invalidCasts | visibility | deprecated
  | missingRequire | strictMissingRequire | extraRequire | missingProvide | checkVars | const
  | constantProperty | uselessCode | suspiciousCode | unusedLocalVariables | unusedPrivateMembers
  | missingReturn | missingOverride | nonStandardJsDocs | misplacedType | es5Strict
  | globalThis | checkRegExp | externsValidation | lintChecks | underscore | duplicateMessage
  deriving DecidableEq, Repr

namespace Group

def all : List Group :=
  [.checkTypes, .missingProperties, .reportUnknownTypes, .invalidCasts, .visibility, .deprecated,
   .missingRequire, .strictMissingRequire, .extraRequire, .missingProvide, .checkVars, .const,
   .constantProperty, .uselessCode, .suspiciousCode, .unusedLocalVariables,
   .unusedPrivateMembers, .missingReturn, .missingOverride, .nonStandardJsDocs,
   .misplacedType, .es5Strict, .globalThis, .checkRegExp, .externsValidation,
   .lintChecks, .underscore, .duplicateMessage]

def name : Group → String
  | checkTypes => "checkTypes"
  | missingProperties => "missingProperties"
  | reportUnknownTypes => "reportUnknownTypes"
  | invalidCasts => "invalidCasts"
  | visibility => "visibility"
  | deprecated => "deprecated"
  | missingRequire => "missingRequire"
  | strictMissingRequire => "strictMissingRequire"
  | extraRequire => "extraRequire"
  | missingProvide => "missingProvide"
  | checkVars => "checkVars"
  | const => "const"
  | constantProperty => "constantProperty"
  | uselessCode => "uselessCode"
  | suspiciousCode => "suspiciousCode"
  | unusedLocalVariables => "unusedLocalVariables"
  | unusedPrivateMembers => "unusedPrivateMembers"
  | missingReturn => "missingReturn"
  | missingOverride => "missingOverride"
  | nonStandardJsDocs => "nonStandardJsDocs"
  | misplacedType => "misplacedTypeAnnotation"
  | es5Strict => "es5Strict"
  | globalThis => "globalThis"
  | checkRegExp => "checkRegExp"
  | externsValidation => "externsValidation"
  | lintChecks => "lintChecks"
  | underscore => "underscore"
  | duplicateMessage => "duplicateMessage"

theorem mem_all (g : Group) : g ∈ all := by
  cases g <;> decide

end Group

inductive Kind
  | typeMismatch | wrongArgumentCount | notAConstructor | notCallable | constructorNotCallable
  | illegalPrototypeMember | inexistentEnumElement | interfaceMethodNotImplemented
  | typeParseError | badTypeForBitOperation | illegalPropertyCreation
  | inexistentProperty | possibleInexistentProperty
  | unknownExprType
  | invalidCast
  | badPrivatePropertyAccess | badProtectedPropertyAccess | badPackagePropertyAccess
  | badPrivateGlobalAccess | privateOverride | visibilityMismatch
  | deprecatedProp | deprecatedClass | deprecatedName
  | missingRequireWarning
  | missingRequireStrictWarning
  | extraRequireWarning | duplicateRequire
  | missingProvideError | lateProvide
  | undefinedVariable | varMultiplyDeclared | referenceBeforeDeclare | redeclaredVariable
  | constantReassigned | missingConstProperty
  | constantPropertyReassigned | constantPropertyDeleted
  | uselessCode | unreachableCode
  | suspiciousSemicolon | suspiciousComparison | suspiciousIn
  | unusedLocalAssignment
  | unusedPrivateProperty
  | missingReturnStatement
  | missingOverride
  | badJsDoc
  | misplacedType
  | useOfWith | argumentsCalleeForbidden | evalUse
  | usedGlobalThis
  | malformedRegexp
  | undefinedExternVar
  | missingJsDoc | missingSemicolon | useOfGoogBase | jsDocMissingType
  | mustBePrivate
  | duplicateMessage
  deriving DecidableEq, Repr

namespace Kind

def all : List Kind :=
  [.typeMismatch, .wrongArgumentCount, .notAConstructor, .notCallable, .constructorNotCallable,
   .illegalPrototypeMember, .inexistentEnumElement, .interfaceMethodNotImplemented,
   .typeParseError, .badTypeForBitOperation, .illegalPropertyCreation, .inexistentProperty,
   .possibleInexistentProperty, .unknownExprType, .invalidCast, .badPrivatePropertyAccess,
   .badProtectedPropertyAccess, .badPackagePropertyAccess, .badPrivateGlobalAccess,
   .privateOverride, .visibilityMismatch, .deprecatedProp, .deprecatedClass, .deprecatedName,
   .missingRequireWarning, .missingRequireStrictWarning, .extraRequireWarning, .duplicateRequire,
   .missingProvideError, .lateProvide, .undefinedVariable, .varMultiplyDeclared,
   .referenceBeforeDeclare, .redeclaredVariable, .constantReassigned, .missingConstProperty,
   .constantPropertyReassigned, .constantPropertyDeleted, .uselessCode, .unreachableCode,
   .suspiciousSemicolon, .suspiciousComparison, .suspiciousIn, .unusedLocalAssignment,
   .unusedPrivateProperty, .missingReturnStatement, .missingOverride, .badJsDoc,
   .misplacedType, .useOfWith, .argumentsCalleeForbidden, .evalUse, .usedGlobalThis,
   .malformedRegexp, .undefinedExternVar, .missingJsDoc, .missingSemicolon, .useOfGoogBase,
   .jsDocMissingType, .mustBePrivate, .duplicateMessage]

def bareKey : Kind → String
  | typeMismatch => "TYPE_MISMATCH"
  | wrongArgumentCount => "WRONG_ARGUMENT_COUNT"
  | notAConstructor => "NOT_A_CONSTRUCTOR"
  | notCallable => "NOT_CALLABLE"
  | constructorNotCallable => "CONSTRUCTOR_NOT_CALLABLE"
  | illegalPrototypeMember => "ILLEGAL_PROTOTYPE_MEMBER"
  | inexistentEnumElement => "INEXISTENT_ENUM_ELEMENT"
  | interfaceMethodNotImplemented => "INTERFACE_METHOD_NOT_IMPLEMENTED"
  | typeParseError => "TYPE_PARSE_ERROR"
  | badTypeForBitOperation => "BAD_TYPE_FOR_BIT_OPERATION"
  | illegalPropertyCreation => "ILLEGAL_PROPERTY_CREATION"
  | inexistentProperty => "INEXISTENT_PROPERTY"
  | possibleInexistentProperty => "POSSIBLE_INEXISTENT_PROPERTY"
  | unknownExprType => "UNKNOWN_EXPR_TYPE"
  | invalidCast => "INVALID_CAST"
  | badPrivatePropertyAccess => "BAD_PRIVATE_PROPERTY_ACCESS"
  | badProtectedPropertyAccess => "BAD_PROTECTED_PROPERTY_ACCESS"
  | badPackagePropertyAccess => "BAD_PACKAGE_PROPERTY_ACCESS"
  | badPrivateGlobalAccess => "BAD_PRIVATE_GLOBAL_ACCESS"
  | privateOverride => "PRIVATE_OVERRIDE"
  | visibilityMismatch => "VISIBILITY_MISMATCH"
  | deprecatedProp => "DEPRECATED_PROP"
  | deprecatedClass => "DEPRECATED_CLASS"
  | deprecatedName => "DEPRECATED_NAME"
  | missingRequireWarning => "MISSING_REQUIRE_WARNING"
  | missingRequireStrictWarning => "MISSING_REQUIRE_STRICT_WARNING"
  | extraRequireWarning => "EXTRA_REQUIRE_WARNING"
  | duplicateRequire => "DUPLICATE_REQUIRE"
  | missingProvideError => "MISSING_PROVIDE_ERROR"
  | lateProvide => "LATE_PROVIDE"
  | undefinedVariable => "UNDEFINED_VARIABLE"
  | varMultiplyDeclared => "VAR_MULTIPLY_DECLARED_ERROR"
  | referenceBeforeDeclare => "REFERENCE_BEFORE_DECLARE"
  | redeclaredVariable => "REDECLARED_VARIABLE"
  | constantReassigned => "CONSTANT_REASSIGNED_VALUE_ERROR"
  | missingConstProperty => "MISSING_CONST_PROPERTY"
  | constantPropertyReassigned => "CONSTANT_PROPERTY_REASSIGNED_VALUE"
  | constantPropertyDeleted => "CONSTANT_PROPERTY_DELETED"
  | uselessCode => "USELESS_CODE"
  | unreachableCode => "UNREACHABLE_CODE"
  | suspiciousSemicolon => "SUSPICIOUS_SEMICOLON"
  | suspiciousComparison => "SUSPICIOUS_COMPARISON_WITH_NAN"
  | suspiciousIn => "SUSPICIOUS_IN"
  | unusedLocalAssignment => "UNUSED_LOCAL_ASSIGNMENT"
  | unusedPrivateProperty => "UNUSED_PRIVATE_PROPERTY"
  | missingReturnStatement => "MISSING_RETURN_STATEMENT"
  | missingOverride => "MISSING_OVERRIDE"
  | badJsDoc => "BAD_JSDOC_ANNOTATION"
  | misplacedType => "MISPLACED_TYPE_ANNOTATION"
  | useOfWith => "USE_OF_WITH"
  | argumentsCalleeForbidden => "ARGUMENTS_CALLEE_FORBIDDEN"
  | evalUse => "EVAL_USE"
  | usedGlobalThis => "USED_GLOBAL_THIS"
  | malformedRegexp => "MALFORMED_REGEXP"
  | undefinedExternVar => "UNDEFINED_EXTERN_VAR_ERROR"
  | missingJsDoc => "MISSING_JSDOC"
  | missingSemicolon => "MISSING_SEMICOLON"
  | useOfGoogBase => "USE_OF_GOOG_BASE"
  | jsDocMissingType => "JSDOC_MISSING_TYPE_WARNING"
  | mustBePrivate => "MUST_BE_PRIVATE"
  | duplicateMessage => "DUPLICATE_MESSAGE"

def key (k : Kind) : String := "JSC_" ++ k.bareKey

def group : Kind → Group
  | typeMismatch | wrongArgumentCount | notAConstructor | notCallable | constructorNotCallable
  | illegalPrototypeMember | inexistentEnumElement | interfaceMethodNotImplemented
  | typeParseError | badTypeForBitOperation | illegalPropertyCreation =>
    .checkTypes
  | inexistentProperty | possibleInexistentProperty =>
    .missingProperties
  | unknownExprType => .reportUnknownTypes
  | invalidCast => .invalidCasts
  | badPrivatePropertyAccess | badProtectedPropertyAccess | badPackagePropertyAccess
  | badPrivateGlobalAccess | privateOverride | visibilityMismatch =>
    .visibility
  | deprecatedProp | deprecatedClass | deprecatedName =>
    .deprecated
  | missingRequireWarning => .missingRequire
  | missingRequireStrictWarning => .strictMissingRequire
  | extraRequireWarning | duplicateRequire =>
    .extraRequire
  | missingProvideError | lateProvide =>
    .missingProvide
  | undefinedVariable | varMultiplyDeclared | referenceBeforeDeclare | redeclaredVariable =>
    .checkVars
  | constantReassigned | missingConstProperty =>
    .const
  | constantPropertyReassigned | constantPropertyDeleted =>
    .constantProperty
  | uselessCode | unreachableCode =>
    .uselessCode
  | suspiciousSemicolon | suspiciousComparison | suspiciousIn =>
    .suspiciousCode
  | unusedLocalAssignment => .unusedLocalVariables
  | unusedPrivateProperty => .unusedPrivateMembers
  | missingReturnStatement => .missingReturn
  | missingOverride => .missingOverride
  | badJsDoc => .nonStandardJsDocs
  | misplacedType => .misplacedType
  | useOfWith | argumentsCalleeForbidden | evalUse =>
    .es5Strict
  | usedGlobalThis => .globalThis
  | malformedRegexp => .checkRegExp
  | undefinedExternVar => .externsValidation
  | missingJsDoc | missingSemicolon | useOfGoogBase | jsDocMissingType =>
    .lintChecks
  | mustBePrivate => .underscore
  | duplicateMessage => .duplicateMessage

theorem mem_all (k : Kind) : k ∈ all := by
  cases k <;> decide

theorem bareKey_inj {j k : Kind} (h : j.bareKey = k.bareKey) : j = k := by
  have distinct : ∀ a ∈ all, ∀ b ∈ all, a.bareKey = b.bareKey → a = b := by
    decide +kernel
  exact distinct j (mem_all j) k (mem_all k) h

end Kind

def Group.kinds (g : Group) : List Kind := Kind.all.filter (·.group = g)

end DiagnosticSieve
