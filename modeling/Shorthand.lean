import Shorthand.Listing.Arena
import Shorthand.Main
import Shorthand.Proofs.Lowering.Definitions
import Shorthand.Proofs.Lowering.Instructions
import Shorthand.Proofs.Syntax.RoundTrip
import Shorthand.Proofs.Indexed.Operands
import Shorthand.Proofs.Indexed.Dispatch
import Shorthand.Proofs.Indexed.Lexer
import Shorthand.Proofs.Indexed.Containers
import Shorthand.Proofs.Indexed.Generator
import Shorthand.Proofs.Lowering.Output
import Shorthand.Proofs.Indexed.Lowering
import Shorthand.Proofs.Indexed.Compiler
import Shorthand.Proofs.Syntax.Lossless
import Shorthand.Proofs.Lowering.Independence
import Shorthand.Proofs.Lowering.Storage
import Shorthand.Proofs.Lowering.Predefined
import Shorthand.Proofs.Syntax.Spacing
import Shorthand.Proofs.Listing.Ownership
import Shorthand.Proofs.Lowering.Comments
import Shorthand.Proofs.Lowering.Evaluated
import Shorthand.Proofs.Listing.Forest
import Shorthand.Proofs.Lowering.Failures
import Shorthand.Proofs.Lowering.Names
import Shorthand.Proofs.Syntax.Accepted
import Shorthand.Proofs.Syntax.Conditions
import Shorthand.Proofs.Syntax.Locality
import Shorthand.Proofs.Syntax.PassedOver
import Shorthand.Proofs.Syntax.Stores
import Shorthand.Proofs.Syntax.Families
import Shorthand.Proofs.Syntax.Compound
import Shorthand.Proofs.Listing.Consumers
import Shorthand.Proofs.Expression.Show
import Shorthand.Proofs.Symbols.Entries
import Shorthand.Proofs.Symbols.History
import Shorthand.Proofs.Lowering.Sizes
import Shorthand.Proofs.Lowering.SingleExpressions
import Shorthand.Proofs.Syntax.Glued
import Shorthand.Proofs.Syntax.Delimiters
import Shorthand.Proofs.Lowering.StringSizes
