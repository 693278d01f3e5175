import TextTemplate.Date.Format
import TextTemplate.Document.Json
import TextTemplate.Document.Template
import TextTemplate.Document.Toml
import TextTemplate.Document.Yaml
import TextTemplate.Formatter
import TextTemplate.Json.Reader
import TextTemplate.Proofs.Date.Columns
import TextTemplate.Proofs.Date.Precision
import TextTemplate.Proofs.Date.Quotation
import TextTemplate.Proofs.Date.Token
import TextTemplate.Proofs.Document.Agreement
import TextTemplate.Proofs.Document.Tags
import TextTemplate.Proofs.Formatter.Cache
import TextTemplate.Proofs.Json.Layout
import TextTemplate.Proofs.Number.RoundTrip
import TextTemplate.Proofs.PropertyList.Pair
import TextTemplate.Proofs.Template.Alike
import TextTemplate.Proofs.Template.Assignment
import TextTemplate.Proofs.Template.CallCount
import TextTemplate.Proofs.Template.Concatenation
import TextTemplate.Proofs.Template.Decomposition
import TextTemplate.Proofs.Template.Doubling
import TextTemplate.Proofs.Template.FixedInteger
import TextTemplate.Proofs.Template.General
import TextTemplate.Proofs.Template.Highlight
import TextTemplate.Proofs.Template.KeyPath
import TextTemplate.Proofs.Template.NumericText
import TextTemplate.Proofs.Template.Padding
import TextTemplate.Proofs.Template.Pretty
import TextTemplate.Proofs.Template.Quiet
import TextTemplate.Proofs.Template.ReadBack
import TextTemplate.Proofs.Template.Saturation
import TextTemplate.Proofs.Template.Sign
import TextTemplate.Proofs.Value.Dump
import TextTemplate.Proofs.Value.Equality
import TextTemplate.Proofs.Value.Forced
import TextTemplate.PropertyList
import TextTemplate.Text.Utf8
