import UriTemplate.Expansion.Unchecked
import UriTemplate.Log.Session
import UriTemplate.Yaml.Document
import UriTemplate.Proofs.Outcome
import UriTemplate.Proofs.Template.Scanning
import UriTemplate.Proofs.Template.Grammar
import UriTemplate.Proofs.Template.Variables
import UriTemplate.Proofs.Template.Expressions
import UriTemplate.Proofs.Template.Decomposition
import UriTemplate.Proofs.Template.Shifting
import UriTemplate.Proofs.Template.Concatenation
import UriTemplate.Proofs.Store.Service
import UriTemplate.Proofs.Store.Transparency
import UriTemplate.Proofs.Expansion.Streaming
import UriTemplate.Proofs.Template.Printing
import UriTemplate.Proofs.Expansion.Safety
import UriTemplate.Proofs.Store.Recency
import UriTemplate.Proofs.Expansion.Faults
import UriTemplate.Proofs.Template.Location
import UriTemplate.Proofs.Expansion.Decoding
import UriTemplate.Proofs.Expansion.Literals
import UriTemplate.Proofs.Expansion.Relevance
import UriTemplate.Proofs.Percent.Encoding
import UriTemplate.Proofs.Store.Lookup
import UriTemplate.Proofs.Store.Bookkeeping
import UriTemplate.Proofs.Catalog.Acceptance
import UriTemplate.Proofs.Store.Capacity
import UriTemplate.Proofs.Template.Precedence
import UriTemplate.Proofs.Template.Spelling
import UriTemplate.Proofs.Expansion.Splitting
import UriTemplate.Proofs.Expansion.Spreading
import UriTemplate.Proofs.Expansion.Undefined
import UriTemplate.Proofs.Expansion.Modifiers
import UriTemplate.Proofs.Value.Refusal
import UriTemplate.Proofs.Expansion.Overlay
import UriTemplate.Proofs.Value.Native
import UriTemplate.Proofs.Expansion.Breaches
import UriTemplate.Proofs.Catalog.Rejection
import UriTemplate.Proofs.Log.Delivery
import UriTemplate.Proofs.Log.Emission
import UriTemplate.Proofs.Log.Lines
import UriTemplate.Proofs.Log.Sessions
import UriTemplate.Proofs.Log.Hierarchy
import UriTemplate.Proofs.Log.Setup
import UriTemplate.Proofs.Log.History
import UriTemplate.Proofs.Log.Levels
import UriTemplate.Proofs.Log.Refusal
