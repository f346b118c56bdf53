import SqlCatalog.Client.Request
import SqlCatalog.Command.Files
import SqlCatalog.Main
import SqlCatalog.Store.Scripted
import SqlCatalog.Value.Convert
import SqlCatalog.Wire.Encode
import SqlCatalog.Proofs.Cache.Residency
import SqlCatalog.Proofs.Client.Transparency
import SqlCatalog.Proofs.Template.Grammar
import SqlCatalog.Proofs.Client.Reuse
import SqlCatalog.Proofs.Client.Dispatch
import SqlCatalog.Proofs.Template.Placeholders
import SqlCatalog.Proofs.Template.Outline
import SqlCatalog.Proofs.Template.NamedForm
import SqlCatalog.Proofs.Template.Concatenation
import SqlCatalog.Proofs.Catalog.Validation
import SqlCatalog.Proofs.Client.Failures
import SqlCatalog.Proofs.Catalog.Agreement
import SqlCatalog.Proofs.Client.Sharing
import SqlCatalog.Proofs.Command.Words
import SqlCatalog.Proofs.Command.Drafts
import SqlCatalog.Proofs.Command.Grammar
import SqlCatalog.Proofs.Command.Keyword
import SqlCatalog.Proofs.Command.Parameters
import SqlCatalog.Proofs.Command.Blocks
import SqlCatalog.Proofs.Arguments.Binding
import SqlCatalog.Proofs.Arguments.Order
import SqlCatalog.Proofs.Cache.Inclusion
import SqlCatalog.Proofs.Client.ArgumentOrder
import SqlCatalog.Proofs.Client.Logging
import SqlCatalog.Proofs.Wire.Table
import SqlCatalog.Proofs.Client.Cursors
import SqlCatalog.Proofs.Wire.Floats
import SqlCatalog.Proofs.Catalog.Building
import SqlCatalog.Proofs.Client.DisplayedSql
import SqlCatalog.Proofs.Text.Lossy
import SqlCatalog.Proofs.Embedded.ReadBack
