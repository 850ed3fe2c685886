import CephadmSmb.Properties.Encoding
import CephadmSmb.Properties.Endpoints
import CephadmSmb.Properties.PublicAddresses
import CephadmSmb.Properties.DataDir
import CephadmSmb.Properties.Network
import CephadmSmb.Properties.JsonDocument
import CephadmSmb.Properties.Version
import CephadmSmb.Properties.Exceptions
