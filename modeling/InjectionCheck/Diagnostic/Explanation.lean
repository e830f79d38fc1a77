import InjectionCheck.Diagnostic.Code

/-!
# The explanation of every code

Each code has a page that explains it: what it means, an example, and how to mend
the example. A page is kept line by line.
-/

set_option autoImplicit false

namespace InjectionCheck

namespace Code

/-- Every line is followed by a line feed. -/
def page (lines : List String) : String :=
  String.join (lines.map (· ++ "\n"))

/-- The page on unterminated string literal. -/
def unterminatedStringPage : String :=
  page [
    "# E0001: Unterminated String Literal",
    "",
    "A string literal is missing its closing quote before the end of the line.",
    "",
    "## Example",
    "",
    "```ts",
    "const API_URL = Symbol('api-url);",
    "```",
    "",
    "## Solution",
    "",
    "Close the string with the same quote character it was opened with:",
    "",
    "```ts",
    "const API_URL = Symbol('api-url');",
    "```"]

/-- The page on invalid character. -/
def invalidCharacterPage : String :=
  page [
    "# E0002: Invalid Character",
    "",
    "The source contains a character that cannot start any token of the",
    "analyzed TypeScript subset, such as a stray `#` or a non-ASCII symbol",
    "outside a string or comment.",
    "",
    "## Example",
    "",
    "```ts",
    "const port = 8080 §",
    "```",
    "",
    "## Solution",
    "",
    "Remove the character, or move it into a string literal or a comment."]

/-- The page on unterminated template literal. -/
def unterminatedTemplatePage : String :=
  page [
    "# E0003: Unterminated Template Literal",
    "",
    "A template literal opened with a backtick is never closed.",
    "",
    "## Example",
    "",
    "```ts",
    "const label = `user-$\x7bid\x7d;",
    "```",
    "",
    "## Solution",
    "",
    "Add the closing backtick:",
    "",
    "```ts",
    "const label = `user-$\x7bid\x7d`;",
    "```"]

/-- The page on unterminated block comment. -/
def unterminatedCommentPage : String :=
  page [
    "# E0004: Unterminated Block Comment",
    "",
    "A `/*` comment has no matching `*/`, so the rest of the file is treated",
    "as a comment.",
    "",
    "## Example",
    "",
    "```ts",
    "/* registration for the user module",
    "export const userConfig = definePartialConfig(\x7b injections: [] \x7d);",
    "```",
    "",
    "## Solution",
    "",
    "Close the comment with `*/`."]

/-- The page on unexpected token. -/
def unexpectedTokenPage : String :=
  page [
    "# E1001: Unexpected Token",
    "",
    "The parser found a token that cannot appear at this position.",
    "",
    "## Example",
    "",
    "```ts",
    "export const appConfig = defineBuilderConfig(\x7b",
    "  builderId: 'app'",
    "  injections: [],",
    "\x7d);",
    "```",
    "",
    "Here a comma is missing after `'app'`, so `injections` is unexpected.",
    "",
    "## Solution",
    "",
    "Check the surrounding punctuation. Object literal properties are separated",
    "by commas, and declarations by semicolons or newlines."]

/-- The page on expected expression. -/
def expectedExpressionPage : String :=
  page [
    "# E1002: Expected Expression",
    "",
    "An expression was expected, for example after `=` in a declaration, after",
    "`:` in an object literal, or inside an array literal.",
    "",
    "## Example",
    "",
    "```ts",
    "const registration = \x7b token: , provider: UserService \x7d;",
    "```",
    "",
    "## Solution",
    "",
    "Provide a value:",
    "",
    "```ts",
    "const registration = \x7b token: USER_SERVICE, provider: UserService \x7d;",
    "```"]

/-- The page on unclosed delimiter. -/
def unclosedDelimiterPage : String :=
  page [
    "# E1003: Unclosed Delimiter",
    "",
    "A `(`, `[` or `\x7b` was opened but the file ended (or a different closing",
    "delimiter appeared) before it was closed.",
    "",
    "## Example",
    "",
    "```ts",
    "export const appConfig = defineBuilderConfig(\x7b",
    "  builderId: 'app',",
    "  injections: [\x7b token: Logger \x7d,",
    "\x7d);",
    "```",
    "",
    "## Solution",
    "",
    "Close every delimiter in the reverse order it was opened. The secondary",
    "label points at the opening delimiter."]

/-- The page on expected identifier. -/
def expectedIdentifierPage : String :=
  page [
    "# E1004: Expected Identifier",
    "",
    "A name was expected, for example after `class`, `interface`, `const`,",
    "or in an import list.",
    "",
    "## Example",
    "",
    "```ts",
    "import \x7b , Logger \x7d from './logger';",
    "```",
    "",
    "## Solution",
    "",
    "Remove the stray punctuation or supply the missing name."]

/-- The page on expected type. -/
def expectedTypePage : String :=
  page [
    "# E1005: Expected Type",
    "",
    "A type annotation was expected after `:` or in a type alias, but the next",
    "token cannot start a type.",
    "",
    "## Example",
    "",
    "```ts",
    "class UserService \x7b",
    "  constructor(private logger: ) \x7b\x7d",
    "\x7d",
    "```",
    "",
    "## Solution",
    "",
    "Write the parameter's type:",
    "",
    "```ts",
    "class UserService \x7b",
    "  constructor(private logger: Logger) \x7b\x7d",
    "\x7d",
    "```"]

/-- The page on unresolved import. -/
def unresolvedImportPage : String :=
  page [
    "# W2001: Unresolved Import",
    "",
    "A relative import does not point at a file of the checked program, or the",
    "target file has no export with the imported name. Names bound by such an",
    "import are unknown to the validator: tokens and classes that flow through",
    "them cannot be identified, and configurations that use them may be skipped.",
    "",
    "Package imports (specifiers not starting with `.`) are never resolved and",
    "never reported.",
    "",
    "## Example",
    "",
    "```ts",
    "import \x7b Logger \x7d from './loger';",
    "```",
    "",
    "## Solution",
    "",
    "Fix the path, or pass the missing file to `inj check`. Relative imports are",
    "resolved against the importing file, trying the path with a `.ts`",
    "extension and then as a directory with an `index.ts`."]

/-- The page on invalid configurations. -/
def invalidConfigurationPage : String :=
  page [
    "# E3001: Invalid Dependency-Injection Configuration",
    "",
    "A builder configuration, or a configuration it extends, describes a",
    "container that cannot be built. Every problem is reported under this one",
    "code. The message names the kind of problem.",
    "",
    "## Missing dependency",
    "",
    "A class registered in the builder's ancestry needs a constructor",
    "parameter whose token no configuration in that ancestry provides.",
    "",
    "```ts",
    "class UserService \x7b",
    "  constructor(private logger: Logger) \x7b\x7d",
    "\x7d",
    "",
    "export const app = defineBuilderConfig(\x7b",
    "  builderId: 'app',",
    "  injections: [\x7b token: UserService \x7d],",
    "\x7d);",
    "```",
    "",
    "The error points at the registration of `UserService`; a secondary label",
    "points at the `logger` parameter. Register `Logger` in `app` or in a",
    "configuration `app` extends. Optional parameters and parameters with a",
    "default value are never required.",
    "",
    "A parameter typed as an interface or type alias needs an explicit token,",
    "because types do not exist at runtime:",
    "",
    "```ts",
    "const LOGGER = Symbol('Logger');",
    "",
    "class UserService \x7b",
    "  constructor(@inject(LOGGER) private logger: Logger) \x7b\x7d",
    "\x7d",
    "```",
    "",
    "Without `@inject` the parameter is always reported as missing.",
    "",
    "## Type mismatch",
    "",
    "A registration binds a token to a provider class whose instances are not",
    "assignable to what a consuming parameter expects. The error points at the",
    "registration. Factory and value registrations are never type checked.",
    "",
    "## Duplicate token",
    "",
    "A token is registered twice in one configuration or across the",
    "configurations it extends. The error points at the later registration;",
    "a secondary label points at the first. When resolving, a configuration's",
    "own registration replaces an inherited one.",
    "",
    "## Duplicate listener",
    "",
    "The same listener is registered twice for one event, in one",
    "configuration or across the configurations it extends.",
    "",
    "## Cycle",
    "",
    "A configuration extends itself, directly or through other",
    "configurations. The error points at the `extends` reference that closes",
    "the loop.",
    "",
    "Configurations that cannot be analyzed statically (for example a spread",
    "inside `injections`) are skipped and never produce errors. A builder that",
    "extends a skipped or unknown configuration is still checked, but missing",
    "dependencies are not reported for it."]

/-- The page that explains a code. -/
def explanation : Code → String
  | .unterminatedString => unterminatedStringPage
  | .invalidCharacter => invalidCharacterPage
  | .unterminatedTemplate => unterminatedTemplatePage
  | .unterminatedComment => unterminatedCommentPage
  | .unexpectedToken => unexpectedTokenPage
  | .expectedExpression => expectedExpressionPage
  | .unclosedDelimiter => unclosedDelimiterPage
  | .expectedIdentifier => expectedIdentifierPage
  | .expectedType => expectedTypePage
  | .unresolvedImport => unresolvedImportPage
  | .invalidConfiguration => invalidConfigurationPage

end Code

end InjectionCheck
